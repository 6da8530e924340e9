import PagedSparql.Regex.Pattern

/-!
# Programs of regular expressions

A regular expression is turned into a list of instructions for a machine with several threads. Code
is laid out one part after the other: the code of an expression, started at its first instruction,
runs through to the one after its last. A split names two places to go on at, the preferred one
first, so that the order of the threads is the order of preference of the matches.
-/

namespace PagedSparql.Regex

/-- One instruction. -/
inductive Inst where
  /-- Reads one character of a set. -/
  | chars (set : Text.CharSet)
  /-- Goes on if an anchor holds. -/
  | anchor (a : Anchor)
  /-- Records the current position. -/
  | save (slot : Nat)
  /-- Goes on at two places, the first one preferred. -/
  | split (first second : Nat)
  /-- Goes on at another place. -/
  | jump (target : Nat)
  /-- The text so far matches. -/
  | accept

namespace Node

/-- The number of instructions of an expression. -/
def size : Node → Nat
  | .empty => 0
  | .literal text => text.length
  | .chars _ => 1
  | .anchor _ => 1
  | .group _ body => body.size + 2
  | .concat a b => a.size + b.size
  | .alternative a b => a.size + b.size + 2
  | .repetition body least most _ =>
    match most with
    | some most => most * body.size + (most - least)
    | none => if least = 0 then body.size + 2 else least * body.size + 1

/-- A split between going on here and going on elsewhere, in the order of greediness. -/
def fork (greedy : Bool) (body exit : Nat) : Inst :=
  if greedy then .split body exit else .split exit body

/-- Code added a number of times. -/
def copies (add : Array Inst → Array Inst) : Nat → Array Inst → Array Inst
  | 0, code => code
  | n + 1, code => copies add n (add code)

/-- Adds the code of an expression to the code before it. -/
def emit : Node → Array Inst → Array Inst
  | .empty, code => code
  | .literal text, code => text.foldl (fun code c => code.push (.chars (.single c))) code
  | .chars set, code => code.push (.chars set)
  | .anchor a, code => code.push (.anchor a)
  | .group index body, code =>
    (emit body (code.push (.save (2 * index)))).push (.save (2 * index + 1))
  | .concat a b, code => emit b (emit a code)
  | .alternative a b, code =>
    let start := code.size
    -- Where the second branch begins and ends is filled in when it is known.
    let code := emit a (code.push (.split (start + 1) 0))
    let leave := code.size
    let code := emit b ((code.push (.jump 0)).setIfInBounds start (.split (start + 1) (leave + 1)))
    code.setIfInBounds leave (.jump code.size)
  | .repetition body least most greedy, code =>
    let start := code.size
    match most with
    | some most =>
      let exit := start + most * body.size + (most - least)
      -- Each of the optional times may be the one to leave.
      let optional := fun (code : Array Inst) =>
        emit body (code.push (fork greedy (code.size + 1) exit))
      copies optional (most - least) (copies (emit body) least code)
    | none =>
      if least = 0 then
        let exit := start + body.size + 2
        let code := emit body (code.push (fork greedy (start + 1) exit))
        -- A body that may match nothing is repeated by a split behind it, which keeps the order of
        -- preference for rounds that read nothing.
        code.push (if body.needsText then .jump start else fork greedy (start + 1) exit)
      else
        let exit := start + least * body.size + 1
        let code := copies (emit body) least code
        code.push (fork greedy (start + (least - 1) * body.size) exit)

/-- The program of an expression; slots 0 and 1 record the ends of the whole match. -/
def program (n : Node) : Array Inst := ((n.emit #[.save 0]).push (.save 1)).push .accept

end Node

end PagedSparql.Regex

import Backtrack.Regex.Footprint
import Backtrack.RegexLibrary

/-!
# Compiling regular expressions

An expression becomes a program for the matching machine of `Program`, built from
the end backwards: each piece is compiled knowing the instruction that follows it.

Repetitions are laid out so that the preferred path comes first at every fork:

* `x{n}` is `n` copies of `x`;
* `x{m,n}` is `m` copies, then `n - m` nested optional copies, each leaving to the exit;
* `x{n,}` with `n ≥ 1` is `n - 1` copies, then `x` with a fork back to its start;
* `x*` is a fork into `x` with a fork back, unless `x` can match the empty string, in which
  case it is compiled as `(x+)?`, which keeps the preference order of the paths through `x`.

A lazy repetition swaps the two sides of each of its forks. The whole expression is wrapped
in group zero, which records where the match starts and ends.
-/

namespace Backtrack
namespace Regex

/-- Appends an instruction; its index. -/
def emit (i : Inst) : StateM (Array Inst) Nat :=
  modifyGet fun insts ↦ (insts.size, insts.push i)

/-- Replaces the instruction at `pc`. -/
def patch (pc : Nat) (i : Inst) : StateM (Array Inst) Unit :=
  modify fun insts ↦ insts.set! pc i

/-- A fork that prefers `first` when `greedy`, else `second`. -/
def fork (greedy : Bool) (first second : Nat) : Inst :=
  if greedy then .split first second else .split second first

mutual
/-- Compiles `h` to run before the instruction `next`; the entry of the compiled code. -/
def compileExpr (h : Expr) (next : Nat) : StateM (Array Inst) Nat :=
  match h with
  | .empty => pure next
  | .chars s _ => emit (.read s.ranges.toArray next)
  | .look l => emit (.look l next)
  | .capture i inner => do
    let close ← emit (.save (2 * i + 1) next)
    let body ← compileExpr inner close
    emit (.save (2 * i) body)
  | .concat items => compileSeq items next
  | .alternation alts => compileAlts alts next
  | .repetition min max greedy inner => do
    match max with
    | some m => do
      let mut entry := next
      for _ in [0:m - min] do
        let body ← compileExpr inner entry
        entry ← emit (fork greedy body next)
      for _ in [0:min] do
        entry ← compileExpr inner entry
      pure entry
    | none =>
      if min = 0 then
        if !inner.matchesEmpty then
          let loop ← emit (.jump next)
          let body ← compileExpr inner loop
          patch loop (fork greedy body next)
          pure loop
        else
          let back ← emit (.jump next)
          let body ← compileExpr inner back
          patch back (fork greedy body next)
          emit (fork greedy body next)
      else
        let back ← emit (.jump next)
        let body ← compileExpr inner back
        patch back (fork greedy body next)
        let mut entry := body
        for _ in [0:min - 1] do
          entry ← compileExpr inner entry
        pure entry

/-- Compiles a sequence, last item first. -/
def compileSeq (items : List Expr) (next : Nat) : StateM (Array Inst) Nat :=
  match items with
  | [] => pure next
  | h :: rest => do compileExpr h (← compileSeq rest next)

/-- Compiles the branches of an alternation and the forks that try them in order. -/
def compileAlts (alts : List Expr) (next : Nat) : StateM (Array Inst) Nat :=
  match alts with
  | [] => emit (.read #[] next)
  | [h] => compileExpr h next
  | h :: rest => do
    let first ← compileExpr h next
    let others ← compileAlts rest next
    emit (.split first others)
end

/-- The program of an expression with `groups` groups, group zero included. -/
def Program.ofExpr (h : Expr) (groups : Nat) : Program :=
  let build : StateM (Array Inst) Nat := do
    let accept ← emit .accept
    compileExpr (.capture 0 h) accept
  let (start, insts) := build.run #[]
  ⟨insts, start, groups⟩

/-- Compiles `pattern` with `flags` in force from the start. The groups are those
that the expression still has once read: a group repeated zero times is gone, and the groups
numbered before the last one that remains are kept, matching nothing if they are gone. An
expression whose automata would be too large is refused. -/
def compile (pattern : String) (flags : RegexFlags) : Except Failure Program := do
  let (tree, _) ← (parse pattern).mapError .malformed
  let start : Flags :=
    { caseInsensitive := flags.caseInsensitive, multiLine := flags.multiLine, dotAll := flags.dotAll }
  match ((Reading.ast tree).run start).map (·.1) with
  | .ok h =>
    if h.fits then pure (Program.ofExpr h (Nat.max 1 h.captureBound))
    else throw (.tooBig sizeLimit)
  | .error f => throw (.malformed ⟨f.kind, pattern, f.span, f.aux⟩)

end Regex
end Backtrack

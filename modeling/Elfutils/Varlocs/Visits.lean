import Elfutils.Varlocs.HandleDie

/-!
# The `--exprlocs` walk as one loop over the DIEs

`handle_die` goes down through `dwarf_child` and along through `dwarf_siblingof`, and hands down,
as it goes, the depth, whether a DIE so far has a frame base, and the entry pc. Read as a forest,
the tree of a DIE is the DIE with the DIEs it encloses (the tree of its first child), followed by
the trees of its next siblings.

This module says what the recursion amounts to. The walk is one loop over the DIEs in the order
a depth-first walk of the forest reaches them (`DieTree.visits`), each DIE handled by the part of
`handle_die` that is its own (`visitDie`), with what the DIEs that enclose it give it: its depth
is the number of them; it has a frame base when it or one of them has `DW_AT_frame_base` ("Whether
this or the any outer DIE has a frame base"); and its entry pc is its own, else the start of its
first range, else the one the nearest of them has (`handleDie_eq_forM_visits`). A sibling gets
nothing from the DIEs before it.
-/

set_option autoImplicit false

namespace Elfutils.Varlocs

/-- A DIE the walk reaches, with the DIEs that enclose it, innermost first. -/
structure Visit where
  die : DieNode
  enclosing : List DieNode

/-- The DIEs of a tree in the order a depth-first walk reaches them, each with the DIEs that
enclose it; `enclosing` are those that enclose the root of the tree. -/
def DieTree.visits : DieTree → List DieNode → List Visit
  | .leaf, _ => []
  | .node n child sibling, enclosing =>
    ⟨n, enclosing⟩ :: (child.visits (n :: enclosing) ++ sibling.visits enclosing)

-- The second child of a DIE is enclosed by the DIE, not by the first child.
example (r a b : DieNode) :
    (DieTree.node r (.node a .leaf (.node b .leaf .leaf)) .leaf).visits [] =
      [⟨r, []⟩, ⟨a, [r]⟩, ⟨b, [r]⟩] := rfl

/-- Whether the DIE has a frame base: it or one of the DIEs that enclose it has
`DW_AT_frame_base`, or the walk was started with one. -/
def Visit.hasFrameBase (v : Visit) (outer : Bool) : Bool :=
  (v.die :: v.enclosing).any (·.hasFrameBase) || outer

/-- The entry pc of the DIE: its own, else the start of its first range, else the one of the
nearest DIE that encloses it and has one, else the one the walk was started from. -/
def Visit.entrypc (v : Visit) (outer : UInt64) : UInt64 :=
  (v.die :: v.enclosing).foldr DieNode.entrypcOr outer

/-- The part of `handle_die` that is the DIE's own: its line, its attributes with the frame base
and at the entry pc it is given, and the check that `dwarf_getattrs` handled them all. -/
def visitDie (g : Globals) (lib : Libdw) (w : Walk) (fuel depth : Nat) (hasFrameBase : Bool)
    (entrypc : UInt64) (n : DieNode) : Out Stop Unit := do
  printDieHeader w depth n
  let aborted ← handleAttrs { g with hasFrameBase } lib w fuel (depth + 1) entrypc n.attrs
  checkAllAttributes (aborted.orElse fun _ => n.attrsError)

section Walk

variable (g : Globals) (lib : Libdw) (w : Walk) (fuel : Nat)

/-- `handle_die` on a DIE: the DIE's own part, then the DIEs it encloses, then its siblings. -/
theorem handleDie_node (n : DieNode) (child sibling : DieTree) (depth : Nat)
    (hasFrameBase : Bool) (entrypc : UInt64) :
    handleDie g lib w fuel (.node n child sibling) depth hasFrameBase entrypc = (do
      visitDie g lib w fuel depth (n.hasFrameBase || hasFrameBase) (n.entrypcOr entrypc) n
      handleDie g lib w fuel child (depth + 1) (n.hasFrameBase || hasFrameBase)
        (n.entrypcOr entrypc)
      handleDie g lib w fuel sibling depth hasFrameBase entrypc) := by
  simp only [handleDie, visitDie, Out.bind_assoc]

/-- The walk of a tree whose root the DIEs `enclosing` enclose, entered with what they give it. -/
theorem handleDie_eq_forM_visits_enclosed (depth : Nat) (outerFb : Bool) (outerPc : UInt64) :
    ∀ (t : DieTree) (enclosing : List DieNode),
      handleDie g lib w fuel t (depth + enclosing.length)
          (enclosing.any (·.hasFrameBase) || outerFb) (enclosing.foldr DieNode.entrypcOr outerPc) =
        (t.visits enclosing).forM fun v =>
          visitDie g lib w fuel (depth + v.enclosing.length) (v.hasFrameBase outerFb)
            (v.entrypc outerPc) v.die
  | .leaf, _ => rfl
  | .node n child sibling, enclosing => by
    have hchild := handleDie_eq_forM_visits_enclosed depth outerFb outerPc child (n :: enclosing)
    simp only [List.length_cons, List.any_cons, List.foldr_cons, Bool.or_assoc,
      ← Nat.add_assoc] at hchild
    rw [handleDie_node, hchild,
      handleDie_eq_forM_visits_enclosed depth outerFb outerPc sibling enclosing, DieTree.visits,
      List.forM, Out.forM_append]
    simp only [Visit.hasFrameBase, Visit.entrypc, List.any_cons, List.foldr_cons, Bool.or_assoc]

/-- The recursion of `handle_die` through `dwarf_child` and `dwarf_siblingof` is one loop over
the DIEs in depth-first order: each is handled at its depth below the DIE the walk starts from,
with a frame base when it or a DIE that encloses it has one (or the walk starts with one), and
at its own entry pc, else the start of its first range, else that of the nearest DIE that
encloses it and has one (or the one the walk starts from). -/
theorem handleDie_eq_forM_visits (t : DieTree) (depth : Nat) (hasFrameBase : Bool)
    (entrypc : UInt64) :
    handleDie g lib w fuel t depth hasFrameBase entrypc =
      (t.visits []).forM fun v =>
        visitDie g lib w fuel (depth + v.enclosing.length) (v.hasFrameBase hasFrameBase)
          (v.entrypc entrypc) v.die := by
  simpa using handleDie_eq_forM_visits_enclosed g lib w fuel depth hasFrameBase entrypc t []

end Walk

end Elfutils.Varlocs

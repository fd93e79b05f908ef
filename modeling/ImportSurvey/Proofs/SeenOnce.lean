import Mathlib.Data.List.Perm.Subperm
import ImportSurvey.Proofs.Origins
import ImportSurvey.Proofs.SourceOrder

/-
  Every name is seen once.

  A system may look at one literal from two sides: from a call that has it as its only argument, and from an array
  that lists it.  That it never reports the same literal twice has to do with where a literal stands: what a node
  holds it holds alone, and what it takes from its parts is what a part shows of itself (`shown`): a literal shows
  itself, and an array the names in it.  A node that is not of these two kinds shows nothing, and a node of these
  two kinds is no call, so nothing is seen at it.

  So the literals that a node shows and those that are seen in it are among its literals, each as often as it
  stands there (`subperm_seenIn`).  That both are in one statement is what carries the induction over the parts: the
  node above takes what is shown, and what was seen before is apart from it.

  In a text no two literals have one position, so no two sightings of one system have one
  (`Program.nodup_allSightings`), and if each system is asked for once, no system reports a name twice
  (`Program.nodup_sightings`).
-/
namespace ImportSurvey.Script

variable {exotic : List String} {system : ModuleSystem} {depth : Nat}

/-! ## What is seen in a tree -/

/-- What a node shows and what is seen at it are apart: a literal and an array are no declarations and no calls. -/
theorem sublist_shown_append (exotic : List String) (system : ModuleSystem) (depth : Nat) (n : Node) :
    (shown n ++ (sightings exotic system ⟨depth, n⟩).map (·.position)).Sublist
      (positions n.ownLiterals ++ n.parts.flatMap shown) := by
  have hseen := sublist_sightings_shown exotic system ⟨depth, n⟩
  cases n with
  | text l =>
    have hnone : sightings exotic system ⟨depth, .text l⟩ = [] := by cases system <;> rfl
    rw [hnone]
    exact List.Sublist.refl _
  | template l =>
    have hnone : sightings exotic system ⟨depth, .template l⟩ = [] := by cases system <;> rfl
    rw [hnone]
    exact List.Sublist.refl _
  | array es =>
    have hnone : sightings exotic system ⟨depth, .array es⟩ = [] := by cases system <;> rfl
    rw [hnone, List.map_nil, List.append_nil]
    refine (sublist_listedLiterals (.array es)).trans ?_
    exact List.Sublist.flatMap_right es fun e _ => sublist_shown_literal e
  | _ => exact hseen

theorem subperm_flatMap {α β : Type} {l : List α} {f g : α → List β} (h : ∀ a ∈ l, (f a).Subperm (g a)) :
    (l.flatMap f).Subperm (l.flatMap g) := by
  induction l with
  | nil => exact List.Subperm.refl []
  | cons a l ih =>
    obtain ⟨ha, hl⟩ := List.forall_mem_cons.mp h
    exact ha.append (ih hl)

/-- **The literals that a node shows and those that are seen in it are among its literals**, each as often as it
stands there. -/
theorem subperm_seenIn (exotic : List String) (system : ModuleSystem) (depth : Nat) (n : Node) :
    (shown n ++ (seenIn exotic system depth n).map (·.position)).Subperm (positions n) := by
  induction n using Node.ofParts generalizing depth with
  | node n ih =>
    have hinside : (seenInside exotic system ⟨depth, n⟩).map (·.position) =
        n.parts.flatMap fun m => (seenIn exotic system (n.within depth) m).map (·.position) := List.map_flatMap
    rw [seenIn_eq, List.map_append, hinside, ← List.append_assoc, positions_node]
    have hown := (sublist_shown_append exotic system depth n).subperm.append (List.Subperm.refl
      (n.parts.flatMap fun m => (seenIn exotic system (n.within depth) m).map (·.position)))
    refine hown.trans ?_
    -- what the parts show is put beside what is seen in them, part by part
    rw [List.append_assoc, List.subperm_append_left]
    refine (List.flatMap_append_perm n.parts _ _).subperm.trans ?_
    exact subperm_flatMap fun m hm => ih m hm (n.within depth)

/-- **What is seen in a tree whose literals are apart is apart.** -/
theorem nodup_seenIn {n : Node} (h : (positions n).Nodup) :
    ((seenIn exotic system depth n).map (·.position)).Nodup := by
  obtain ⟨ps, hperm, hsub⟩ := subperm_seenIn exotic system depth n
  have happend := hperm.nodup_iff.mp (hsub.nodup h)
  exact happend.of_append_right

/-! ## Whole texts -/

/-- All that is reported of a tree, with its place in the text: the sightings of one system after those of the other. -/
def Request.sightings (q : Request) (tree : Node) : List Sighting :=
  q.systems.flatMap fun s => allSightings q.exotic s tree

theorem references_eq_map (q : Request) (tree : Node) :
    references q tree = (q.sightings tree).map (·.reference) :=
  List.map_flatMap.symm

/-- Which system reports a name, and where the name stands. -/
def Sighting.report (x : Sighting) : ModuleSystem × Nat := (x.reference.moduleSystem, x.position)

namespace Program

variable {d : Dialect} {text : String} {p : Program}

/-- **No system sees one name of a text twice.** -/
theorem nodup_allSightings (h : read? d text = some p) (exotic : List String) (system : ModuleSystem) :
    ((allSightings exotic system p.tree).map (·.position)).Nodup :=
  nodup_seenIn ((ascending_positions h).imp Nat.ne_of_lt)

/-- **Systems that are asked for once report every name of a text once.** -/
theorem nodup_sightings (h : read? d text = some p) {q : Request} (hq : q.systems.Nodup) :
    ((q.sightings p.tree).map (·.report)).Nodup := by
  rw [Request.sightings, List.map_flatMap, List.nodup_flatMap]
  refine ⟨fun s _ => ?_, hq.imp fun hne => ?_⟩
  · refine List.Nodup.of_map Prod.snd ?_
    rw [List.map_map]
    exact nodup_allSightings h q.exotic s
  · -- two systems report under two names
    intro report hs hs'
    obtain ⟨x, hx, rfl⟩ := List.mem_map.mp hs
    obtain ⟨y, hy, hreport⟩ := List.mem_map.mp hs'
    have hsame : y.reference.moduleSystem = x.reference.moduleSystem := congrArg Prod.fst hreport
    rw [(origin_of_mem_allSightings hx).moduleSystem_eq, (origin_of_mem_allSightings hy).moduleSystem_eq] at hsame
    exact hne hsame.symm

end Program

end ImportSurvey.Script

/-
# NameMap -- finite maps from names, in the order of the names

A map whose entries stand in strictly rising order of their names has one
representation per content, so equality of maps is equality of entry lists, and
whatever is printed from a map does not depend on how it was filled.

`insertEntry` puts one entry into such a list, replacing an entry of the same name;
`NameMap` carries the order as a proof.  `entry_mem_insertEntry` says what an
insertion adds and what it keeps.
-/
import SparqlRequest.Text.Basic

set_option autoImplicit false

namespace SparqlRequest

open Text

namespace Text

/-! ## The order of texts -/

theorem before_trans {s t u : Text} (st : before s t = true) (tu : before t u = true) :
    before s u = true := by
  induction s generalizing t u with
  | nil =>
      cases t with
      | nil => simp [before] at st
      | cons d t => cases u with
        | nil => simp [before] at tu
        | cons e u => rfl
  | cons c s ih =>
      cases t with
      | nil => simp [before] at st
      | cons d t => cases u with
        | nil => simp [before] at tu
        | cons e u =>
            simp only [before] at st tu ⊢
            by_cases cd : c = d <;> by_cases de : d = e
            · subst cd de
              simp only [if_true] at st tu ⊢
              exact ih st tu
            · subst cd
              simpa [de] using tu
            · subst de
              simpa [cd] using st
            · simp only [if_neg cd, if_neg de, decide_eq_true_eq] at st tu
              have ce : c ≠ e := by
                rintro rfl
                omega
              simp only [if_neg ce, decide_eq_true_eq]
              omega

theorem before_total {s t : Text} (differ : s ≠ t) : before s t = true ∨ before t s = true := by
  induction s generalizing t with
  | nil => cases t with
    | nil => exact absurd rfl differ
    | cons d t => exact Or.inl rfl
  | cons c s ih => cases t with
    | nil => exact Or.inr rfl
    | cons d t =>
        simp only [before]
        by_cases cd : c = d
        · subst cd
          simpa using ih (fun same => differ (by rw [same]))
        · have dc : ¬ d = c := fun same => cd same.symm
          simp only [if_neg cd, if_neg dc, decide_eq_true_eq]
          have codes : c.toNat ≠ d.toNat := fun same => cd (Char.toNat_inj.1 same)
          omega

end Text

namespace NameMap

/-! ## Entries in order -/

/-- The names rise strictly. -/
def InOrder {α : Type} (entries : List (Text × α)) : Prop :=
  entries.Pairwise fun a b => before a.1 b.1 = true

/-- Puts an entry in its place; an entry of the same name is replaced. -/
def insertEntry {α : Type} (name : Text) (value : α) : List (Text × α) → List (Text × α)
  | [] => [(name, value)]
  | entry :: rest =>
      if name = entry.1 then (name, value) :: rest
      else if before name entry.1 then (name, value) :: entry :: rest
      else entry :: insertEntry name value rest

theorem entry_mem_insertEntry {α : Type} {name : Text} {value : α} {entries : List (Text × α)}
    {entry : Text × α} (found : entry ∈ insertEntry name value entries) :
    entry = (name, value) ∨ entry ∈ entries := by
  induction entries with
  | nil => simpa [insertEntry] using found
  | cons first rest ih =>
      simp only [insertEntry] at found
      split at found
      · rcases List.mem_cons.1 found with h | h
        · exact Or.inl h
        · exact Or.inr (List.mem_cons_of_mem _ h)
      · split at found
        · rcases List.mem_cons.1 found with h | h
          · exact Or.inl h
          · exact Or.inr h
        · rcases List.mem_cons.1 found with h | h
          · exact Or.inr (h ▸ List.mem_cons_self)
          · exact (ih h).imp id (List.mem_cons_of_mem _)

theorem inOrder_insertEntry {α : Type} {entries : List (Text × α)} (sorted : InOrder entries)
    (name : Text) (value : α) : InOrder (insertEntry name value entries) := by
  induction entries with
  | nil => simp [insertEntry, InOrder]
  | cons first rest ih =>
      obtain ⟨least, tail⟩ := List.pairwise_cons.1 sorted
      simp only [insertEntry]
      split
      · rename_i same
        exact List.pairwise_cons.2 ⟨fun b hb => same ▸ least b hb, tail⟩
      · rename_i differ
        split
        · rename_i lower
          refine List.pairwise_cons.2 ⟨fun b hb => ?_, sorted⟩
          rcases List.mem_cons.1 hb with rfl | hb
          · exact lower
          · exact before_trans lower (least b hb)
        · rename_i notLower
          refine List.pairwise_cons.2 ⟨fun b hb => ?_, ih tail⟩
          rcases entry_mem_insertEntry hb with rfl | hb
          · exact (before_total differ).resolve_left notLower
          · exact least b hb

end NameMap

/-! ## Maps -/

/-- A finite map from names to texts, its entries in rising order of their names. -/
structure NameMap where
  entries : List (Text × Text)
  sorted : NameMap.InOrder entries
  deriving DecidableEq

namespace NameMap

def empty : NameMap := ⟨[], List.Pairwise.nil⟩

def insert (map : NameMap) (name value : Text) : NameMap :=
  ⟨insertEntry name value map.entries, inOrder_insertEntry map.sorted name value⟩

/-- The map filled with the pairs in turn; a later pair replaces an earlier one of
its name. -/
def ofPairs (pairs : List (Text × Text)) : NameMap :=
  pairs.foldl (fun map pair => map.insert pair.1 pair.2) empty

def size (map : NameMap) : Nat := map.entries.length

end NameMap

end SparqlRequest

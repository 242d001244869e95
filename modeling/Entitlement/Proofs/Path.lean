import Entitlement.Files
import Mathlib.Data.List.DropRight

/-!
The directory of a path has the components of the path but for the last one, however many slashes and dots stand
between them or behind.
-/

namespace Entitlement

/-! ### Fields -/

theorem Text.not_mem_of_mem_splitOn {separator : Char} {cs part : List Char} (mem : part ∈ cs.splitOn separator) :
    separator ∉ part := by
  induction cs generalizing part with
  | nil =>
    rw [List.splitOn_nil, List.mem_singleton] at mem
    rw [mem]
    exact List.not_mem_nil
  | cons c cs ih =>
    obtain ⟨first, others, split⟩ := List.exists_cons_of_ne_nil (List.splitOn_ne_nil separator cs)
    rw [List.splitOn_cons_eq_if_modifyHead, split] at mem
    rw [split] at ih
    split at mem
    · rcases List.mem_cons.mp mem with rfl | later
      · exact List.not_mem_nil
      · exact ih later
    · rename_i other
      rcases List.mem_cons.mp mem with rfl | later
      · rw [List.mem_cons, not_or]
        exact ⟨fun same => other (beq_iff_eq.mpr same.symm), ih List.mem_cons_self⟩
      · exact ih (List.mem_cons_of_mem _ later)

theorem Text.not_mem_of_mem_fields {separator : Char} {s field : String} (mem : field ∈ fields separator s) :
    separator ∉ field.toList := by
  obtain ⟨part, part_mem, rfl⟩ := List.mem_map.mp mem
  rw [String.toList_ofList]
  exact not_mem_of_mem_splitOn part_mem

theorem Text.fields_intercalate {parts : List String} (nonempty : parts ≠ [])
    (clear : ∀ part ∈ parts, '/' ∉ part.toList) : fields '/' (String.intercalate "/" parts) = parts := by
  have clear_lists : ∀ part ∈ parts.map String.toList, '/' ∉ part := by
    intro part mem
    obtain ⟨text, text_mem, rfl⟩ := List.mem_map.mp mem
    exact clear text text_mem
  have split := List.splitOn_intercalate '/' clear_lists (by simpa using nonempty)
  rw [fields, String.toList_intercalate]
  refine (congrArg (List.map String.ofList) split).trans ?_
  simp

namespace Path

variable {parts rest : List String}

/-- The parts that count wherever they stand. -/
def active (parts : List String) : List String := parts.filter fun part => !isIdle part

theorem active_append (parts rest : List String) : active (parts ++ rest) = active parts ++ active rest :=
  List.filter_append parts rest

theorem active_singleton {part : String} (counts : isIdle part = false) : active [part] = [part] := by
  rw [active, List.filter_singleton, counts]
  rfl

theorem active_rtakeWhile (parts : List String) : active (parts.rtakeWhile isIdle) = [] :=
  List.filter_eq_nil_iff.mpr fun part mem => by simp [List.mem_rtakeWhile_imp mem]

theorem active_rdropWhile (parts : List String) : active (parts.rdropWhile isIdle) = active parts := by
  calc active (parts.rdropWhile isIdle)
    _ = active (parts.rdropWhile isIdle ++ parts.rtakeWhile isIdle) := by
        rw [active_append, active_rtakeWhile, List.append_nil]
    _ = active parts := by rw [List.rdropWhile_append_rtakeWhile]

theorem components_eq {first path : String} (split : Text.fields '/' path = first :: rest) :
    components path = (if first = "." then ["."] else active [first]) ++ active rest := by
  have same : (fun part : String => part != "" && part != ".") = fun part => !isIdle part := by
    funext part
    rw [isIdle, Bool.not_or]
    rfl
  rw [components, split, same]
  by_cases dot : first = "."
  · subst dot
    rfl
  · rw [if_neg dot, active, active, ← List.filter_append, List.singleton_append]
    split
    · rename_i here
      cases here
      contradiction
    · rfl

theorem directory_eq {path : String} (split : Text.fields '/' path = parts) : directory path =
    match (parts.rdropWhile isIdle).dropLast with
    | [] => ""
    | first :: rest => if first :: rest.rdropWhile isIdle == [""] then "/"
      else String.intercalate "/" (first :: rest.rdropWhile isIdle) := by
  rw [directory, split, List.rdropWhile, List.dropLast_reverse]
  rfl

theorem components_directory (path : String) : components (directory path) = (components path).dropLast := by
  obtain ⟨first, rest, split⟩ : ∃ first rest, Text.fields '/' path = first :: rest :=
    List.exists_cons_of_ne_nil (by simp [Text.fields, List.splitOn_ne_nil])
  have clear : ∀ part ∈ first :: rest, '/' ∉ part.toList := fun part mem =>
    Text.not_mem_of_mem_fields (split ▸ mem)
  have whole := List.rdropWhile_append_rtakeWhile (p := isIdle) (l := first :: rest)
  have behind := active_rtakeWhile (first :: rest)
  have nothing : components "" = [] := by decide
  rw [components_eq split, directory_eq split]
  rcases List.eq_nil_or_concat' ((first :: rest).rdropWhile isIdle) with none | ⟨front, last, kept⟩
  · have idle := List.rdropWhile_eq_nil_iff.mp none
    have first_idle := idle first List.mem_cons_self
    have rest_idle : active rest = [] :=
      List.filter_eq_nil_iff.mpr fun part mem => by simp [idle part (List.mem_cons_of_mem _ mem)]
    rw [none, List.dropLast_nil, nothing, rest_idle, List.append_nil]
    split
    · rfl
    · simp [active, first_idle]
  have counts : isIdle last = false := by
    have := List.rdropWhile_last_not isIdle (first :: rest) (by simp [kept])
    simpa [kept] using this
  rw [kept, List.dropLast_concat]
  rw [kept] at whole
  generalize (first :: rest).rtakeWhile isIdle = idle at whole behind
  cases front with
  | nil =>
    obtain ⟨rfl, rfl⟩ := List.cons.inj whole
    have not_dot : last ≠ "." := by
      rintro rfl
      cases counts
    rw [if_neg not_dot, active_singleton counts]
    change components "" = ([last] ++ active idle).dropLast
    rw [behind, nothing]
    rfl
  | cons first front =>
    rw [List.cons_append, List.cons_append] at whole
    obtain ⟨rfl, rfl⟩ := List.cons.inj whole
    rw [active_append, active_append, active_singleton counts, behind, List.append_nil, ← List.append_assoc,
      List.dropLast_concat]
    dsimp only
    split
    · rename_i root
      obtain ⟨rfl, none⟩ := List.cons.inj (eq_of_beq root)
      rw [← active_rdropWhile front, none]
      decide
    · have parts_clear : ∀ part ∈ first :: front.rdropWhile isIdle, '/' ∉ part.toList := by
        have sub := (List.rdropWhile_prefix isIdle (l := front)).subset
        intro part mem
        rcases List.mem_cons.mp mem with rfl | later
        · exact clear part List.mem_cons_self
        · exact clear part (by simp [sub later])
      rw [components_eq (Text.fields_intercalate (List.cons_ne_nil _ _) parts_clear), active_rdropWhile]

example : directory "a/b/./c.yaml" = "a/b" ∧ directory "/c.yaml" = "/" := by decide +kernel

end Path

end Entitlement

import Mathlib.Data.List.Basic

/-!
# Self-delimiting lists of lists

`frame` announces every letter of a list with `more` and ends with `stop`, so a frame can be read off
the front of any list that starts with it. Concatenated frames therefore determine their contents.
-/

namespace PqsecDds.Lib

variable {α : Type*}

def frame (more stop : α) : List α → List α
  | [] => [stop]
  | x :: l => more :: x :: frame more stop l

def frames (more stop : α) (ls : List (List α)) : List α := ls.flatMap (frame more stop)

variable {more stop : α}

theorem frame_append_inj (h : more ≠ stop) :
    ∀ {l l' t t' : List α}, frame more stop l ++ t = frame more stop l' ++ t' → l = l' ∧ t = t'
  | [], [], t, t', heq => by simpa [frame] using heq
  | [], _ :: _, _, _, heq => by
    simp only [frame, List.cons_append, List.cons.injEq] at heq
    exact absurd heq.1.symm h
  | _ :: _, [], _, _, heq => by
    simp only [frame, List.cons_append, List.cons.injEq] at heq
    exact absurd heq.1 h
  | x :: l, x' :: l', t, t', heq => by
    simp only [frame, List.cons_append, List.cons.injEq, true_and] at heq
    obtain ⟨hx, htail⟩ := heq
    obtain ⟨hl, ht⟩ := frame_append_inj h htail
    exact ⟨by rw [hx, hl], ht⟩

theorem frame_ne_nil (l : List α) : frame more stop l ≠ [] := by
  cases l <;> simp [frame]

theorem frames_injective (h : more ≠ stop) : Function.Injective (frames more stop) := by
  intro ls
  induction ls with
  | nil =>
    intro ls' heq
    cases ls' with
    | nil => rfl
    | cons l' ls' =>
      have hnil := (List.append_eq_nil_iff.1 heq.symm).1
      exact absurd hnil (frame_ne_nil l')
  | cons l ls ih =>
    intro ls' heq
    cases ls' with
    | nil =>
      have hnil := (List.append_eq_nil_iff.1 heq).1
      exact absurd hnil (frame_ne_nil l)
    | cons l' ls' =>
      obtain ⟨hl, hrest⟩ := frame_append_inj h heq
      rw [hl, ih hrest]

/-- Framing adds no letters of its own but the two it is given. -/
theorem mem_frame {l : List α} {x : α} (h : x ∈ frame more stop l) : x = more ∨ x = stop ∨ x ∈ l := by
  induction l with
  | nil => exact .inr (.inl (List.mem_singleton.1 h))
  | cons y l ih =>
    rcases List.mem_cons.1 h with rfl | h
    · exact .inl rfl
    rcases List.mem_cons.1 h with rfl | h
    · exact .inr (.inr List.mem_cons_self)
    rcases ih h with h | h | h
    · exact .inl h
    · exact .inr (.inl h)
    · exact .inr (.inr (List.mem_cons_of_mem _ h))

theorem mem_frames {ls : List (List α)} {x : α} (h : x ∈ frames more stop ls) :
    x = more ∨ x = stop ∨ ∃ l ∈ ls, x ∈ l := by
  obtain ⟨l, hl, hx⟩ := List.mem_flatMap.1 h
  rcases mem_frame hx with h | h | h
  · exact .inl h
  · exact .inr (.inl h)
  · exact .inr (.inr ⟨l, hl, h⟩)

end PqsecDds.Lib

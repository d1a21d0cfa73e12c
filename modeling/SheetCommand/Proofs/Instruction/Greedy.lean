import SheetCommand.Proofs.Instruction.Condition

/-!
# Words read as far as they go

What a pattern reads does not depend on what has been kept before (`exists_same`). A word of a name
is read greedily, so it is cut in its middle only if what comes next can be read there and not at
the end of the word. If that never happens, the last word of a phrase is read to its end
(`exists_apart_of_run_words`).
-/

namespace SheetCommand

open Text

variable {σ : Type}

namespace Pattern

/-! ### What was kept before -/

/-- Two cursors at one place that may have kept different pieces. -/
def Same (c d : Cursor σ) : Prop := c.last = d.last ∧ c.rest = d.rest

theorem Same.symm {c d : Cursor σ} (h : Same c d) : Same d c := ⟨h.1.symm, h.2.symm⟩

/-- Rounds of a pattern do not look at the pieces kept before if one round does not. -/
theorem exists_same_of_rounds {greedy : Bool} {p : Pattern σ} {d : Cursor σ}
    (hp : ∀ {c c' d : Cursor σ}, Same c c' → d ∈ p.outcomes c → ∃ d' ∈ p.outcomes c', Same d d')
    (fuel : List Char) {c c' : Cursor σ} (hc : Same c c')
    (hd : d ∈ rounds greedy p.outcomes fuel c) :
    ∃ d' ∈ rounds greedy p.outcomes fuel c', Same d d' := by
  induction fuel generalizing c c' with
  | nil => exact ⟨c', by simp [rounds], List.mem_singleton.mp hd ▸ hc⟩
  | cons _ fuel ih =>
    rcases mem_rounds_cons.mp hd with ⟨e, he, hd⟩ | rfl
    · obtain ⟨e', he', hsame⟩ := hp hc he
      obtain ⟨d', hd', hsame⟩ := ih hsame hd
      exact ⟨d', mem_rounds_cons.mpr (.inl ⟨e', he', hd'⟩), hsame⟩
    · exact ⟨c', mem_rounds_cons.mpr (.inr rfl), hc⟩

/-- **Readings do not look at the pieces kept before.** -/
theorem exists_same {p : Pattern σ} {c c' d : Cursor σ} (hc : Same c c') (hd : d ∈ p.outcomes c) :
    ∃ d' ∈ p.outcomes c', Same d d' := by
  induction p generalizing c c' d with
  | one cls =>
    obtain ⟨m, rest, hrest, hm, rfl⟩ := mem_outcomes_one.mp hd
    exact ⟨c'.advance m rest, mem_outcomes_one.mpr ⟨m, rest, hc.2 ▸ hrest, hm, rfl⟩, rfl, rfl⟩
  | seq p q ihp ihq =>
    obtain ⟨e, he, hd⟩ := List.mem_flatMap.mp hd
    obtain ⟨e', he', hsame⟩ := ihp hc he
    obtain ⟨d', hd', hsame⟩ := ihq hsame hd
    exact ⟨d', List.mem_flatMap.mpr ⟨e', he', hd'⟩, hsame⟩
  | choice p q ihp ihq =>
    rcases List.mem_append.mp hd with hd | hd
    · obtain ⟨d', hd', hsame⟩ := ihp hc hd
      exact ⟨d', List.mem_append_left _ hd', hsame⟩
    · obtain ⟨d', hd', hsame⟩ := ihq hc hd
      exact ⟨d', List.mem_append_right _ hd', hsame⟩
  | many greedy p ih =>
    rw [outcomes, hc.2] at hd
    exact exists_same_of_rounds ih _ hc hd
  | keep slot p ih =>
    obtain ⟨e, he, rfl⟩ := List.mem_map.mp hd
    obtain ⟨e', he', hsame⟩ := ih hc he
    exact ⟨_, List.mem_map.mpr ⟨e', he', rfl⟩, hsame⟩
  | absent p ih =>
    obtain ⟨hnone, rfl⟩ : p.outcomes c = [] ∧ d = c := by simpa [outcomes] using hd
    have hnone' : p.outcomes c' = [] := by
      refine List.eq_nil_iff_forall_not_mem.mpr fun e he => ?_
      obtain ⟨e', he', -⟩ := ih hc.symm he
      simp [hnone] at he'
    exact ⟨c', by simp [outcomes, hnone'], hc⟩
  | empty => exact ⟨c', by simp [outcomes], List.mem_singleton.mp hd ▸ hc⟩
  | start =>
    obtain ⟨hnone, rfl⟩ : c.last = none ∧ d = c := by simpa [outcomes] using hd
    exact ⟨c', by simp [outcomes, ← hc.1, hnone], hc⟩
  | stop =>
    obtain ⟨hnil, rfl⟩ : c.rest = [] ∧ d = c := by simpa [outcomes] using hd
    exact ⟨c', by simp [outcomes, ← hc.2, hnil], hc⟩
  | edge =>
    obtain ⟨hedge, rfl⟩ := mem_outcomes_edge.mp hd
    refine ⟨c', mem_outcomes_edge.mpr ⟨?_, rfl⟩, hc⟩
    rwa [Cursor.atEdge, ← hc.1, ← hc.2]

/-! ### Tasks at the end of a word -/

theorem isSome_run_iff {p : Pattern σ} {c : Cursor σ} :
    (p.run c some).isSome = true ↔ ∃ d, d ∈ p.outcomes c := by
  rw [run_some_eq_head?, isSome_head?_iff]

/-- A task that can be done in the middle of a word can be done at its end. -/
def ServesWords (k : Task σ) : Prop :=
  ∀ {c d : Cursor σ} {read : List Char}, c.rest = read ++ d.rest →
    (∀ m ∈ read, CharClass.name.accepts m = true) →
    (∀ m ∈ d.rest.head?, CharClass.name.accepts m = false) →
    ¬ BeginsApart c.rest → (k c).isSome = true → (k d).isSome = true

theorem accepts_name_of_isWordChar {m : Char} (h : isWordChar m = true) :
    CharClass.name.accepts m = true := by
  simp [CharClass.name, CharClass.accepts, h]

theorem accepts_name_of_isBlank {b : Char} (h : isBlank b = true) :
    CharClass.name.accepts b = false := by
  have hhyphen : b ≠ '-' := by rintro rfl; cases h
  simp [CharClass.name, CharClass.accepts, isWordChar_of_isBlank h, hhyphen]

theorem iterate_greedy_cons (step : Cursor σ → Task σ → Option (Cursor σ)) (m : Char)
    (fuel : List Char) (c : Cursor σ) (k : Task σ) :
    iterate true step (m :: fuel) c k =
      (step c fun d => iterate true step fuel d k).or (k c) := by
  rw [iterate, if_pos rfl]
  cases step c fun d => iterate true step fuel d k <;> rfl

theorem iterate_lazy_cons (step : Cursor σ → Task σ → Option (Cursor σ)) (m : Char)
    (fuel : List Char) (c : Cursor σ) (k : Task σ) :
    iterate false step (m :: fuel) c k =
      (k c).or (step c fun d => iterate false step fuel d k) := by
  rw [iterate, if_neg (by simp)]
  cases k c <;> rfl

theorem exists_word_end (text : List Char) : ∃ word after, text = word ++ after ∧
    (∀ m ∈ word, CharClass.name.accepts m = true) ∧
      ∀ m ∈ after.head?, CharClass.name.accepts m = false := by
  refine ⟨_, _, (List.takeWhile_append_dropWhile (p := CharClass.name.accepts)).symm,
    fun m hm => List.mem_takeWhile_imp hm, fun m hm => ?_⟩
  have hstop := List.head?_dropWhile_not CharClass.name.accepts text
  rw [hm] at hstop
  simpa using hstop

/-- **A word read greedily** is not cut before a word character. -/
theorem exists_apart_of_iterate_name {k : Task σ} (hk : ServesWords k) {c d : Cursor σ}
    (h : iterate true (one .name).run c.rest c k = some d) :
    ∃ e, k e = some d ∧ BeginsApart e.rest := by
  have key : ∀ (rest : List Char) {c : Cursor σ}, c.rest = rest →
      iterate true (one .name).run rest c k = some d → ∃ e, k e = some d ∧ BeginsApart e.rest := by
    intro rest
    induction rest with
    | nil =>
      intro c hc h
      exact ⟨c, h, by simp [BeginsApart, hc]⟩
    | cons m rest ih =>
      intro c hc h
      rw [iterate_greedy_cons, Option.or_eq_some_iff, run, hc] at h
      by_cases hm : CharClass.name.accepts m = true
      · simp only [hm, if_true] at h
        rcases h with h | ⟨hlonger, hhere⟩
        · exact ih rfl h
        refine ⟨c, hhere, Classical.byContradiction fun hcut => ?_⟩
        -- The whole word was tried before, and the task would have been done behind it.
        obtain ⟨word, after, rfl, hword, hafter⟩ := exists_word_end rest
        let e : Cursor σ := ⟨word.getLast?.or (some m), after, c.kept⟩
        have hfailed : k e = none := by
          have hnone : (many true (one .name)).run (c.advance m (word ++ after)) k = none := hlonger
          rw [run_eq_findSome?, List.findSome?_eq_none_iff] at hnone
          exact hnone e (mem_many_of_append hword after (some m) c.kept)
        have hsplit : c.rest = (m :: word) ++ e.rest := hc
        have hserved := hk hsplit (List.forall_mem_cons.mpr ⟨hm, hword⟩) hafter hcut
          (by rw [hhere]; rfl)
        rw [hfailed] at hserved
        cases hserved
      · simp only [hm, Bool.false_eq_true, if_false, reduceCtorEq, false_or, true_and] at h
        refine ⟨c, h, ?_⟩
        rw [hc]
        rintro _ ⟨⟩
        exact Bool.eq_false_iff.mpr fun hword => hm (accepts_name_of_isWordChar hword)
  exact key c.rest rfl h

end Pattern

namespace Instruction

open Pattern

variable {k : Pattern.Task Slot} {c d : Pieces}

theorem exists_apart_of_run_nameChars (hk : ServesWords k) (h : nameChars.run c k = some d) :
    ∃ e, k e = some d ∧ BeginsApart e.rest := by
  have h : wordChar.run c (fun e => (many true (one .name)).run e k) = some d := h
  simp only [wordChar, run] at h
  split at h
  · cases h
  · split at h
    · exact exists_apart_of_iterate_name hk h
    · cases h

theorem exists_of_run_blank {p : Phrase} (h : (blank ++ p).run c k = some d) :
    ∃ m rest, c.rest = m :: rest ∧ isBlank m = true ∧ p.run (c.advance m rest) k = some d := by
  have h : (one .blank).run c (fun e => p.run e k) = some d := h
  rw [run] at h
  split at h
  · cases h
  · rename_i m rest hrest
    split at h
    · exact ⟨m, rest, hrest, ‹_›, h⟩
    · cases h

/-- In the middle of a word no further word begins. -/
theorem run_blank_of_cut {p : Phrase} (hc : ¬ BeginsApart c.rest) :
    (blank ++ p).run c k = none := by
  refine Option.eq_none_iff_forall_ne_some.mpr fun d h => hc ?_
  obtain ⟨m, rest, hrest, hm, -⟩ := exists_of_run_blank h
  rw [hrest]
  rintro _ ⟨⟩
  exact isWordChar_of_isBlank hm

theorem servesWords_iterate (hk : ServesWords k) (fuel : Pieces → List Char) :
    ServesWords fun e => iterate false (blank ++ nameChars : Phrase).run (fuel e) e k := by
  intro c d read hrest hread hafter hcut h
  have hc : (k c).isSome = true := by
    cases hfuel : fuel c with
    | nil => simpa [hfuel, iterate] using h
    | cons m fuel =>
      simpa only [hfuel, iterate_lazy_cons, run_blank_of_cut hcut, Option.or_none] using h
  have hd := hk hrest hread hafter hcut hc
  cases hfuel : fuel d with
  | nil => simpa [hfuel, iterate] using hd
  | cons m fuel => simp only [hfuel, iterate_lazy_cons, Option.isSome_or, hd, Bool.true_or]

/-- **The last word of a phrase** is read to its end. -/
theorem exists_apart_of_run_words (hk : ServesWords k)
    (h : (nameChars ++ many false (blank ++ nameChars) : Phrase).run c k = some d) :
    ∃ e, k e = some d ∧ BeginsApart e.rest := by
  have key : ∀ (fuel : List Char) {c : Pieces}, BeginsApart c.rest →
      iterate false (blank ++ nameChars : Phrase).run fuel c k = some d →
      ∃ e, k e = some d ∧ BeginsApart e.rest := by
    intro fuel
    induction fuel with
    | nil => exact fun hc h => ⟨_, h, hc⟩
    | cons _ fuel ih =>
      intro c hc h
      rw [iterate_lazy_cons, Option.or_eq_some_iff] at h
      rcases h with h | ⟨-, h⟩
      · exact ⟨c, h, hc⟩
      · obtain ⟨m, rest, -, -, h⟩ := exists_of_run_blank h
        obtain ⟨e, he, hapart⟩ :=
          exists_apart_of_run_nameChars (servesWords_iterate hk fun _ => fuel) h
        exact ih hapart he
  obtain ⟨e, he, hapart⟩ :=
    exists_apart_of_run_nameChars (servesWords_iterate hk Cursor.rest) h
  exact key _ hapart he

end Instruction

end SheetCommand

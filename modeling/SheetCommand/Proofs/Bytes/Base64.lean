import Mathlib.Data.List.Forall2
import SheetCommand.Bytes.Base64

/-!
# Bytes — base64, there and back

A text is in base64 if letters of the alphabet fill groups of four, the last one with the padding
that it lacks (`IsStrict`).

* `isSome_decode?_iff`: these are the texts that are decoded.
* `decode?_encode`: bytes come back from their text.
-/

namespace SheetCommand.Base64

/-! ### Letters -/

def IsLetter (c : Char) : Prop :=
  'A' ≤ c ∧ c ≤ 'Z' ∨ 'a' ≤ c ∧ c ≤ 'z' ∨ '0' ≤ c ∧ c ≤ '9' ∨ c = '+' ∨ c = '/'

instance : DecidablePred IsLetter := fun _ => inferInstanceAs (Decidable (_ ∨ _))

theorem isSome_value?_iff {c : Char} : (value? c).isSome = true ↔ IsLetter c := by
  unfold value? IsLetter
  grind

theorem IsLetter.ne_pad {c : Char} (h : IsLetter c) : c ≠ '=' := by
  rintro rfl
  exact absurd h (by decide)

theorem IsLetter.lt {c : Char} (h : IsLetter c) : c.toNat < 128 := by
  have hval : c.val.toNat = c.toNat := rfl
  simp only [IsLetter, Char.le_def, UInt32.le_iff_toNat_le, hval] at h
  rcases h with ⟨-, h⟩ | ⟨-, h⟩ | ⟨-, h⟩ | rfl | rfl
  · exact Nat.lt_of_le_of_lt h (by decide)
  · exact Nat.lt_of_le_of_lt h (by decide)
  · exact Nat.lt_of_le_of_lt h (by decide)
  · decide
  · decide

theorem value?_letter {n : Nat} (h : n < 64) : value? (letter n) = some n := by
  revert n
  decide

/-! ### Texts -/

/-- Whether so many letters and so much padding make groups of four. Behind complete groups padding
may have any length. -/
def Fills (letters padding : Nat) : Prop :=
  letters = 0 ∧ padding = 0 ∨ letters ≠ 0 ∧ letters % 4 = 0 ∨ letters % 4 = 2 ∧ padding = 2 ∨
    letters % 4 = 3 ∧ padding = 1

/-- **A text is in base64**: letters that fill groups of four with the padding behind them. -/
def IsStrict (text : List Char) : Prop :=
  ∃ letters padding, text = letters ++ List.replicate padding '=' ∧
    (∀ c ∈ letters, IsLetter c) ∧ Fills letters.length padding

theorem Fills.mod_ne_one {letters padding : Nat} (h : Fills letters padding) : letters % 4 ≠ 1 := by
  unfold Fills at h
  omega

theorem padsTo_iff {letters padding : Nat} (h : letters % 4 ≠ 1) :
    padsTo letters padding = true ↔ Fills letters padding := by
  simp only [padsTo, Fills]
  split
  · simp; omega
  · simp; omega

/-- Only a single value behind complete groups gives no bytes. -/
theorem isSome_bytes?_iff {values : List Nat} :
    (bytes? values).isSome = true ↔ values.length % 4 ≠ 1 := by
  fun_induction bytes? values with
  | case5 a b c d rest n ih =>
    have hlength : (a :: b :: c :: d :: rest).length = rest.length + 4 := rfl
    rw [Option.isSome_map, ih, hlength, Nat.add_mod_right]
  | _ => simp

theorem mapM_value?_eq_some_iff {letters : List Char} {values : List Nat} :
    letters.mapM value? = some values ↔
      List.Forall₂ (fun c n => value? c = some n) letters values := by
  induction letters generalizing values with
  | nil => simp [eq_comm]
  | cons c rest ih =>
    rw [List.mapM_cons, List.forall₂_cons_left_iff]
    simp only [← ih, Option.bind_eq_bind, Option.bind_eq_some_iff, Option.pure_def,
      Option.some.injEq]
    constructor
    · rintro ⟨n, hn, values, hvalues, rfl⟩
      exact ⟨n, values, hn, hvalues, rfl⟩
    · rintro ⟨n, values, hn, hvalues, rfl⟩
      exact ⟨n, hn, values, hvalues, rfl⟩

theorem length_of_mapM_value? {letters : List Char} {values : List Nat}
    (h : letters.mapM value? = some values) : values.length = letters.length :=
  (mapM_value?_eq_some_iff.mp h).length_eq.symm

/-- Letters, and nothing else, have values. -/
theorem exists_mapM_value?_iff {letters : List Char} :
    (∃ values, letters.mapM value? = some values) ↔ ∀ c ∈ letters, IsLetter c := by
  simp only [mapM_value?_eq_some_iff, ← isSome_value?_iff]
  induction letters with
  | nil => simp
  | cons c rest ih =>
    rw [List.forall_mem_cons, ← ih, Option.isSome_iff_exists]
    simp only [List.forall₂_cons_left_iff]
    constructor
    · rintro ⟨_, n, values, hn, hvalues, rfl⟩
      exact ⟨⟨n, hn⟩, values, hvalues⟩
    · rintro ⟨⟨n, hn⟩, values, hvalues⟩
      exact ⟨_, n, values, hn, hvalues, rfl⟩

/-- Letters with padding behind them are decoded by their values. -/
theorem decode?_append {letters : List Char} {values : List Nat}
    (hvalues : letters.mapM value? = some values) (padding : Nat) :
    decode? (letters ++ List.replicate padding '=') =
      if padsTo letters.length padding then bytes? values else none := by
  have hne : ∀ c ∈ letters, decide (c ≠ '=') = true := fun c hc =>
    decide_eq_true (exists_mapM_value?_iff.mp ⟨values, hvalues⟩ c hc).ne_pad
  rw [decode?, List.takeWhile_append_of_pos hne, List.dropWhile_append_of_pos hne]
  simp [hvalues]

/-- **Texts in base64** are the ones that are decoded. -/
theorem isSome_decode?_iff {text : List Char} :
    (decode? text).isSome = true ↔ IsStrict text := by
  constructor
  · intro h
    obtain ⟨bytes, h⟩ := Option.isSome_iff_exists.mp h
    obtain ⟨values, hvalues, h⟩ := Option.bind_eq_some_iff.mp h
    obtain ⟨⟨hpadding, hpads⟩, h⟩ := Option.ite_none_right_eq_some.mp h
    have hall : ∀ c ∈ text.dropWhile (· ≠ '='), c = '=' := by simpa using hpadding
    have hsome : (bytes? values).isSome = true := h ▸ rfl
    rw [isSome_bytes?_iff, length_of_mapM_value? hvalues] at hsome
    refine ⟨text.takeWhile (· ≠ '='), (text.dropWhile (· ≠ '=')).length, ?_,
      exists_mapM_value?_iff.mp ⟨values, hvalues⟩, (padsTo_iff hsome).mp hpads⟩
    rw [← List.eq_replicate_iff.mpr ⟨rfl, hall⟩, List.takeWhile_append_dropWhile]
  · rintro ⟨letters, padding, rfl, hletters, hfills⟩
    obtain ⟨values, hvalues⟩ := exists_mapM_value?_iff.mpr hletters
    have hone := hfills.mod_ne_one
    rw [decode?_append hvalues, if_pos ((padsTo_iff hone).mpr hfills), isSome_bytes?_iff,
      length_of_mapM_value? hvalues]
    exact hone

instance : DecidablePred IsStrict := fun _ => decidable_of_iff _ isSome_decode?_iff

theorem IsStrict.lt {text : List Char} (h : IsStrict text) {c : Char} (hc : c ∈ text) :
    c.toNat < 128 := by
  obtain ⟨letters, padding, rfl, hletters, -⟩ := h
  rcases List.mem_append.mp hc with hc | hc
  · exact (hletters c hc).lt
  · rw [List.eq_of_mem_replicate hc]
    decide

/-! ### Bytes -/

/-- A text of bytes is letters and padding that are decoded to the bytes. -/
theorem encode_eq (bytes : List UInt8) :
    ∃ values padding, encode bytes = values.map letter ++ List.replicate padding '=' ∧
      (∀ n ∈ values, n < 64) ∧ Fills values.length padding ∧ bytes? values = some bytes := by
  fun_induction encode bytes with
  | case1 => exact ⟨[], 0, rfl, by simp, .inl ⟨rfl, rfl⟩, rfl⟩
  | case2 a n =>
    have ha : a.toNat < 256 := a.toNat_lt
    refine ⟨[n / 64, n % 64], 2, rfl, ?_, by simp [Fills], ?_⟩
    · simp; omega
    · have : (n / 64 * 64 + n % 64) / 16 = a.toNat := by omega
      simp [bytes?, this]
  | case3 a b n =>
    have ha : a.toNat < 256 := a.toNat_lt
    have hb : b.toNat < 256 := b.toNat_lt
    refine ⟨[n / 4096, n / 64 % 64, n % 64], 1, rfl, ?_, by simp [Fills], ?_⟩
    · simp; omega
    · have hn : (n / 4096 * 64 + n / 64 % 64) * 64 + n % 64 = n := by omega
      have h₁ : n / 1024 = a.toNat := by omega
      have h₂ : n / 4 % 256 = b.toNat := by omega
      simp [bytes?, hn, h₁, h₂]
  | case4 a b c rest n ih =>
    have ha : a.toNat < 256 := a.toNat_lt
    have hb : b.toNat < 256 := b.toNat_lt
    have hc : c.toNat < 256 := c.toNat_lt
    obtain ⟨values, padding, htext, hvalues, hfills, hbytes⟩ := ih
    refine ⟨n / 262144 :: n / 4096 % 64 :: n / 64 % 64 :: n % 64 :: values, padding, ?_, ?_, ?_, ?_⟩
    · rw [htext]; rfl
    · simp only [List.forall_mem_cons]
      exact ⟨by omega, by omega, by omega, by omega, hvalues⟩
    · simp only [Fills, List.length_cons] at hfills ⊢
      omega
    · have hn : ((n / 262144 * 64 + n / 4096 % 64) * 64 + n / 64 % 64) * 64 + n % 64 = n := by omega
      have h₁ : n / 65536 = a.toNat := by omega
      have h₂ : n / 256 % 256 = b.toNat := by omega
      have h₃ : n % 256 = c.toNat := by omega
      simp [bytes?, hbytes, hn, h₁, h₂, h₃]

/-- **Bytes come back** from their text. -/
theorem decode?_encode (bytes : List UInt8) : decode? (encode bytes) = some bytes := by
  obtain ⟨values, padding, htext, hsmall, hfills, hbytes⟩ := encode_eq bytes
  have hvalues : (values.map letter).mapM value? = some values := by
    rw [mapM_value?_eq_some_iff, List.forall₂_map_left_iff, List.forall₂_same]
    exact fun n hn => value?_letter (hsmall n hn)
  rw [htext, decode?_append hvalues, List.length_map,
    if_pos ((padsTo_iff hfills.mod_ne_one).mpr hfills), hbytes]

/-- Only the empty text says nothing. -/
theorem decode?_eq_nil_iff {text : List Char} : decode? text = some [] ↔ text = [] := by
  constructor
  · intro h
    have hstrict : IsStrict text := by
      rw [← isSome_decode?_iff, h]
      rfl
    obtain ⟨letters, padding, rfl, hletters, hfills⟩ := hstrict
    obtain ⟨values, hvalues⟩ := exists_mapM_value?_iff.mpr hletters
    rw [decode?_append hvalues, if_pos ((padsTo_iff hfills.mod_ne_one).mpr hfills)] at h
    have hnil : values = [] := by
      unfold bytes? at h
      split at h <;> simp_all
    have hlength := length_of_mapM_value? hvalues
    rw [hnil, List.length_nil] at hlength
    obtain rfl : padding = 0 := by
      unfold Fills at hfills
      omega
    rw [List.eq_nil_of_length_eq_zero hlength.symm]
    rfl
  · rintro rfl
    rfl

end SheetCommand.Base64

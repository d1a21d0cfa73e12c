import Mathlib.Algebra.Group.Nat.Defs
import Mathlib.Data.List.TakeDrop
import Mathlib.Data.List.TakeWhile
import SheetCommand.Number.Numeral

/-!
# Number — digits of any script

An optional minus sign, some digits and an optional fraction, all in the digits of any script, are
read as a number (`decimal?_numeral`).
-/

namespace SheetCommand

/-! ### Digits -/

namespace Text

theorem lt_ten_of_digitValue? {c : Char} {d : Nat} (h : digitValue? c = some d) : d < 10 := by
  unfold digitValue? at h
  dsimp only at h
  split at h
  · split at h
    · cases h; omega
    · cases h
  · obtain ⟨z, hz, rfl⟩ := Option.map_eq_some_iff.mp h
    have hrange := List.find?_some hz
    simp only [Bool.and_eq_true, decide_eq_true_eq] at hrange
    omega

theorem digitsValue_lt {digits : List Nat} (h : ∀ d ∈ digits, d < 10) :
    digitsValue digits < 10 ^ digits.length := by
  have key : ∀ k, digits.foldl (fun n d => 10 * n + d) k < (k + 1) * 10 ^ digits.length := by
    induction digits with
    | nil => intro k; simp
    | cons d digits ih =>
      intro k
      obtain ⟨hd, hdigits⟩ := List.forall_mem_cons.mp h
      calc digits.foldl (fun n d => 10 * n + d) (10 * k + d)
          < (10 * k + d + 1) * 10 ^ digits.length := ih hdigits _
        _ ≤ ((k + 1) * 10) * 10 ^ digits.length := Nat.mul_le_mul_right _ (by omega)
        _ = (k + 1) * 10 ^ (digits.length + 1) := by rw [Nat.mul_assoc, Nat.pow_succ']
  simpa [digitsValue] using key 0

theorem takeDigits_lt (text : List Char) : ∀ d ∈ (takeDigits text).1, d < 10 := by
  induction text with
  | nil => simp [takeDigits_nil]
  | cons c text ih =>
    cases hc : digitValue? c with
    | none => simp [takeDigits_cons_of_none hc]
    | some d =>
      rw [takeDigits_cons_of_some hc]
      exact List.forall_mem_cons.mpr ⟨lt_ten_of_digitValue? hc, ih⟩

theorem length_takeDigits_le (text : List Char) : (takeDigits text).1.length ≤ text.length := by
  induction text with
  | nil => simp [takeDigits_nil]
  | cons c text ih =>
    cases hc : digitValue? c with
    | none => simp [takeDigits_cons_of_none hc]
    | some d => simpa [takeDigits_cons_of_some hc] using ih

/-- A number is below the power of ten with as many zeros as there are characters. -/
theorem digitsValue_takeDigits_lt (text : List Char) :
    digitsValue (takeDigits text).1 < 10 ^ text.length :=
  (digitsValue_lt (takeDigits_lt text)).trans_le
    (Nat.pow_le_pow_right (by decide) (length_takeDigits_le text))

/-- The digit of the same value in ASCII. -/
def ascii (c : Char) : Char :=
  if c.toNat < 128 then c else ((digitValue? c).getD 0).digitChar

/-- Characters that are in ASCII already. -/
theorem map_ascii_of_lt {text : List Char} (h : ∀ c ∈ text, c.toNat < 128) :
    text.map ascii = text :=
  (List.map_congr_left fun c hc => if_pos (h c hc)).trans (List.map_id _)

theorem isAsciiDigit_ascii {c : Char} (h : isDigit c = true) : isAsciiDigit (ascii c) = true := by
  obtain ⟨d, hd⟩ := Option.isSome_iff_exists.mp h
  unfold ascii
  split
  · rename_i hc
    unfold digitValue? at hd
    dsimp only at hd
    rw [if_pos hc] at hd
    split at hd
    · rename_i hrange
      simp only [isAsciiDigit, Bool.and_eq_true, decide_eq_true_eq, Char.le_def,
        UInt32.le_iff_toNat_le]
      exact hrange
    · cases hd
  · have hall : ∀ e < 10, isAsciiDigit (Nat.digitChar e) = true := by decide
    rw [hd]
    exact hall d (lt_ten_of_digitValue? hd)

theorem zeros_not_blank : ∀ z ∈ zeros, ∀ k < 10, isBlank (Char.ofNat (z + k)) = false := by
  decide +kernel

theorem isBlank_of_isDigit {c : Char} (h : isDigit c = true) : isBlank c = false := by
  obtain ⟨d, hd⟩ := Option.isSome_iff_exists.mp h
  unfold digitValue? at hd
  dsimp only at hd
  split at hd
  · split at hd
    · simp only [isBlank, isPlainBlank, Bool.or_eq_false_iff, Bool.and_eq_false_iff,
        decide_eq_false_iff_not, beq_eq_false_iff_ne]
      omega
    · cases hd
  · obtain ⟨z, hz, -⟩ := Option.map_eq_some_iff.mp hd
    have hrange := List.find?_some hz
    simp only [Bool.and_eq_true, decide_eq_true_eq] at hrange
    have hblank := zeros_not_blank z (List.mem_of_find?_eq_some hz) (c.toNat - z) (by omega)
    rwa [Nat.add_sub_cancel' hrange.1, Char.ofNat_toNat] at hblank

theorem dropWhile_eq_self {p : Char → Bool} {text : List Char} (h : ∀ c ∈ text, p c = false) :
    text.dropWhile p = text := by
  cases text with
  | nil => rfl
  | cons c text => rw [List.dropWhile_cons, if_neg (by simp [h c])]

theorem trim_eq_self {text : List Char} (h : ∀ c ∈ text, isBlank c = false) : trim text = text := by
  rw [trim, trimBy, dropWhile_eq_self h, dropWhile_eq_self fun c hc => h c (by simpa using hc),
    List.reverse_reverse]

end Text

namespace Numeral

/-! ### The steps of reading -/

theorem toAscii?_eq {text : List Char} (h : ∀ c ∈ text, c.toNat < 128 ∨ Text.isDigit c = true) :
    toAscii? text = some (text.map Text.ascii) := by
  unfold toAscii?
  induction text with
  | nil => rfl
  | cons c text ih =>
    have hc : (if c.toNat < 128 then some c else (Text.digitValue? c).map Nat.digitChar) =
        some (Text.ascii c) := by
      unfold Text.ascii
      split
      · rfl
      · rename_i hge
        obtain ⟨d, hd⟩ := Option.isSome_iff_exists.mp ((h c (by simp)).resolve_left hge)
        rw [hd]; rfl
    rw [List.mapM_cons, hc, ih fun d hd => h d (by simp [hd])]
    rfl

theorem joinFrom_of_not_mem {last : Char} {text : List Char} (hlast : last ≠ '_')
    (h : '_' ∉ text) : joinFrom last text = some text := by
  induction text generalizing last with
  | nil => simp [joinFrom, hlast]
  | cons c text ih =>
    have hc : c ≠ '_' := fun e => h (by simp [e])
    simp [joinFrom, hc, hlast, ih hc fun hm => h (by simp [hm])]

/-! ### Numerals -/

/-- Digits behind a decimal point, if there are any. -/
def pointed : List Char → List Char
  | [] => []
  | c :: digits => '.' :: c :: digits

/-- A sign, digits and a fraction. -/
def numeral (negative : Bool) (whole fraction : List Char) : List Char :=
  (if negative then ['-'] else []) ++ (whole ++ pointed fraction)

variable {negative : Bool} {whole fraction : List Char}

theorem mem_numeral {c : Char} (h : c ∈ numeral negative whole fraction) :
    c = '-' ∨ c = '.' ∨ c ∈ whole ∨ c ∈ fraction := by
  simp only [numeral, List.mem_append] at h
  rcases h with h | h | h
  · cases negative with
    | false => cases h
    | true => exact .inl (List.mem_singleton.mp h)
  · exact .inr (.inr (.inl h))
  · cases fraction with
    | nil => cases h
    | cons d digits => exact .inr ((List.mem_cons.mp h).imp_right .inr)

theorem spanDigits_append {digits rest : List Char}
    (hdigits : ∀ c ∈ digits, Text.isAsciiDigit c = true)
    (hrest : ∀ c ∈ rest.head?, Text.isAsciiDigit c = false) :
    spanDigits (digits ++ rest) = (digits, rest) := by
  have hstop : rest.takeWhile Text.isAsciiDigit = [] ∧ rest.dropWhile Text.isAsciiDigit = rest := by
    cases rest with
    | nil => exact ⟨rfl, rfl⟩
    | cons c rest => simp [hrest c rfl]
  rw [spanDigits, List.span_eq_takeWhile_dropWhile, List.takeWhile_append_of_pos hdigits,
    List.dropWhile_append_of_pos hdigits, hstop.1, hstop.2, List.append_nil]

theorem magnitude?_numeral (hne : whole ≠ []) (hwhole : ∀ c ∈ whole, Text.isAsciiDigit c = true)
    (hfraction : ∀ c ∈ fraction, Text.isAsciiDigit c = true) :
    magnitude? (whole ++ pointed fraction) =
      some ⟨Text.digitsValue (Text.takeDigits (whole ++ fraction)).1, 0 - fraction.length⟩ := by
  have hpoint : ∀ c ∈ (pointed fraction).head?, Text.isAsciiDigit c = false := by
    cases fraction with
    | nil => simp [pointed]
    | cons d digits => simp [pointed]; decide
  have hspan : spanDigits (fraction ++ []) = _ := spanDigits_append hfraction (by simp)
  rw [List.append_nil] at hspan
  rw [magnitude?, spanDigits_append hwhole hpoint]
  cases fraction with
  | nil => simp [pointed, hne, exponent?]
  | cons d digits => simp [pointed, hspan, hne, exponent?]

/-- Digits do not spell a name. -/
theorem lower_ne_name {name : String} {body : List Char} {c : Char}
    (hc : name.toList.head? = some c) (hnot : Text.isAsciiDigit c = false)
    (hbody : ∀ d ∈ body.head?, Text.isAsciiDigit d = true) :
    String.ofList (body.map Char.toLower) ≠ name := by
  rintro rfl
  rw [String.toList_ofList, List.head?_map] at hc
  obtain ⟨d, hd, rfl⟩ := Option.map_eq_some_iff.mp hc
  have hdigit := hbody d hd
  have hlow : d.toLower = d := by
    have hval : d.val.toNat = d.toNat := rfl
    simp only [Text.isAsciiDigit, Bool.and_eq_true, decide_eq_true_eq, Char.le_def,
      UInt32.le_iff_toNat_le, Char.reduceVal, UInt32.reduceToNat, hval] at hdigit
    unfold Char.toLower
    rw [dif_neg]
    simp only [UInt32.le_iff_toNat_le, hval, Char.reduceVal, UInt32.reduceToNat]
    omega
  rw [hlow, hdigit] at hnot
  cases hnot

theorem splitSign_numeral (hne : whole ≠ []) (hwhole : ∀ c ∈ whole, Text.isAsciiDigit c = true) :
    splitSign (numeral negative whole fraction) = (negative, whole ++ pointed fraction) := by
  cases negative with
  | true => rfl
  | false =>
    obtain ⟨c, digits, rfl⟩ := List.exists_cons_of_ne_nil hne
    have hc := hwhole c (by simp)
    unfold splitSign
    split
    · rename_i rest hrest
      obtain rfl : c = '-' := (List.cons.inj hrest).1
      cases hc
    · rename_i rest hrest
      obtain rfl : c = '+' := (List.cons.inj hrest).1
      cases hc
    · rfl

theorem plainDecimal?_numeral (hne : whole ≠ [])
    (hwhole : ∀ c ∈ whole, Text.isAsciiDigit c = true)
    (hfraction : ∀ c ∈ fraction, Text.isAsciiDigit c = true) :
    plainDecimal? (numeral negative whole fraction) =
      some (Decimal.toBinary64 negative
        ⟨Text.digitsValue (Text.takeDigits (whole ++ fraction)).1, 0 - fraction.length⟩) := by
  have hhead : ∀ d ∈ (whole ++ pointed fraction).head?, Text.isAsciiDigit d = true := by
    obtain ⟨c, digits, rfl⟩ := List.exists_cons_of_ne_nil hne
    simpa using hwhole c (by simp)
  have hnan := @lower_ne_name "nan" _ 'n' rfl (by decide) hhead
  have hinf := @lower_ne_name "inf" _ 'i' rfl (by decide) hhead
  have hinfinity := @lower_ne_name "infinity" _ 'i' rfl (by decide) hhead
  unfold plainDecimal?
  rw [splitSign_numeral hne hwhole]
  simp only [hnan, hinf, hinfinity, magnitude?_numeral hne hwhole hfraction, if_false, or_self,
    Option.map_some]

theorem map_ascii_numeral :
    (numeral negative whole fraction).map Text.ascii =
      numeral negative (whole.map Text.ascii) (fraction.map Text.ascii) := by
  have hminus : Text.ascii '-' = '-' := by decide
  have hpoint : Text.ascii '.' = '.' := by decide
  cases negative <;> cases fraction <;> simp [numeral, pointed, hminus, hpoint]

/-- **A numeral in the digits of any script** is read as a number. -/
theorem decimal?_numeral (hne : whole ≠ []) (hwhole : ∀ c ∈ whole, Text.isDigit c = true)
    (hfraction : ∀ c ∈ fraction, Text.isDigit c = true) :
    decimal? (numeral negative whole fraction) =
      some (Decimal.toBinary64 negative
        ⟨Text.digitsValue (Text.takeDigits ((whole ++ fraction).map Text.ascii)).1,
          0 - fraction.length⟩) := by
  have hchar : ∀ c ∈ numeral negative whole fraction,
      c = '-' ∨ c = '.' ∨ Text.isDigit c = true := fun c hc =>
    (mem_numeral hc).imp_right (·.imp_right fun h => h.elim (hwhole c) (hfraction c))
  have hblank : ∀ c ∈ numeral negative whole fraction, Text.isBlank c = false := by
    intro c hc
    rcases hchar c hc with rfl | rfl | hd
    · decide
    · decide
    · exact Text.isBlank_of_isDigit hd
  have hascii : ∀ c ∈ numeral negative whole fraction, c.toNat < 128 ∨ Text.isDigit c = true := by
    intro c hc
    rcases hchar c hc with rfl | rfl | hd
    · exact .inl (by decide)
    · exact .inl (by decide)
    · exact .inr hd
  have hdigits : ∀ digits : List Char, (∀ c ∈ digits, Text.isDigit c = true) →
      ∀ c ∈ digits.map Text.ascii, Text.isAsciiDigit c = true := by
    intro digits h c hc
    obtain ⟨d, hd, rfl⟩ := List.mem_map.mp hc
    exact Text.isAsciiDigit_ascii (h d hd)
  have hunderscore : '_' ∉ numeral negative (whole.map Text.ascii) (fraction.map Text.ascii) := by
    intro hm
    rcases mem_numeral hm with h | h | h | h
    · revert h; decide
    · revert h; decide
    · cases hdigits whole hwhole _ h
    · cases hdigits fraction hfraction _ h
  rw [decimal?, Text.trim_eq_self hblank, toAscii?_eq hascii, map_ascii_numeral]
  simp only [bind, Option.bind, joinDigits?,
    @joinFrom_of_not_mem ' ' _ (by decide) hunderscore]
  rw [plainDecimal?_numeral (by simpa using hne) (hdigits whole hwhole)
      (hdigits fraction hfraction),
    List.map_append, List.length_map]

end Numeral

end SheetCommand

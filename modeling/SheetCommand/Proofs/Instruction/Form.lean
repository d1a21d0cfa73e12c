import SheetCommand.Instruction.Interpret
import SheetCommand.Proofs.Instruction.Lead

/-!
# Forms — instructions with named open parts

A form is a sketch that also says which stretches of it a phrase is to keep, and under which names.
If the phrases tried before miss the sketch and a phrase finds it, keeping the stretches of the
form, then every filling is recognised as a request of that phrase's kind, built from the texts of
those stretches (`recognize_of_finds`). Both conditions are decided by computation, once for all
fillings.
-/

namespace SheetCommand.Instruction

/-- The phrases of all kinds, in the order in which they are tried. -/
def ranked : List (ActionKind × Phrase) :=
  ActionKind.all.flatMap fun kind => (phrases kind).map (kind, ·)

theorem recognize_eq_findSome? (w : Wording) :
    recognize w = ranked.findSome? fun x => (x.2.search w.lower).bind (build x.1 w) := by
  rw [ranked, Pattern.findSome?_flatMap]
  exact congrArg (fun f => List.findSome? f ActionKind.all) (funext fun kind => by
    rw [recognizeAs, List.findSome?_map]; rfl)

/-- The phrase tried at one place of the order decides if none before it is found. -/
theorem recognize_of_search {w : Wording} {n : Nat} {kind : ActionKind} {p : Phrase} {c : Pieces}
    {r : Request} (hn : ranked[n]? = some (kind, p))
    (hmiss : ∀ x ∈ ranked.take n, (x.2.search w.lower).bind (build x.1 w) = none)
    (hp : p.search w.lower = some c) (hbuild : build kind w c = some r) :
    recognize w = some r := by
  obtain ⟨hlt, hget⟩ := List.getElem?_eq_some_iff.mp hn
  have hsplit : ranked = ranked.take n ++ (kind, p) :: ranked.drop (n + 1) := by
    rw [← hget, List.getElem_cons_drop, List.take_append_drop]
  have hnone :
      (ranked.take n).findSome? (fun x => (x.2.search w.lower).bind (build x.1 w)) = none :=
    List.findSome?_eq_none_iff.mpr hmiss
  rw [recognize_eq_findSome?, hsplit, List.findSome?_append, hnone, List.findSome?_cons]
  simp [hp, hbuild]

/-- If a phrase is found and yields a request, then one does that is tried no later. -/
theorem exists_recognize {w : Wording} {n : Nat} {x : ActionKind × Phrase} {r : Request}
    (hn : ranked[n]? = some x) (h : (x.2.search w.lower).bind (build x.1 w) = some r) :
    ∃ y ∈ ranked.take (n + 1), ∃ c r', build y.1 w c = some r' ∧ recognize w = some r' := by
  have hmem : x ∈ ranked.take (n + 1) := by
    refine List.mem_iff_getElem?.mpr ⟨n, ?_⟩
    rwa [List.getElem?_take_of_lt (Nat.lt_succ_self n)]
  have hsome : ((ranked.take (n + 1)).findSome? fun x =>
      (x.2.search w.lower).bind (build x.1 w)).isSome = true :=
    List.findSome?_isSome_iff.mpr ⟨x, hmem, by rw [h]; rfl⟩
  obtain ⟨r', hr'⟩ := Option.isSome_iff_exists.mp hsome
  obtain ⟨y, hy, hyield⟩ := List.exists_of_findSome?_eq_some hr'
  obtain ⟨c, -, hbuild⟩ := Option.bind_eq_some_iff.mp hyield
  refine ⟨y, hy, c, r', hbuild, ?_⟩
  rw [recognize_eq_findSome?, ← List.take_append_drop (n + 1) ranked, List.findSome?_append, hr']
  rfl

/-- What the phrases of each kind yield, and when. -/
inductive Built (w : Wording) (c : Pieces) : ActionKind → Request → Prop
  | renameSheet : Built w c .renameSheet (.renameSheet (titled c .old) (titled c .new))
  | renameColumn : Built w c .renameColumn (.edit (.renameColumn (titled c .old) (titled c .new)))
  | addColumnSum : Built w c .addColumnSum
      (.edit (.addColumnSum (titled c .first) (titled c .second) (titled c .new)))
  | deleteColumn : Built w c .deleteColumn (.edit (.deleteColumn (titled c .name)))
  | filterRows {op : Comparison} {value : Binary64}
      (trigger : filterTrigger.occursIn w.lower = true)
      (sign : Comparison.ofSymbol? (symbol c) = some op)
      (number : Numeral.decimal? ((read c .number).filter (· ≠ ',')) = some value) :
    Built w c .filterRows (.edit (.filterRows (titled c .column) op value))
  | sortBy : Built w c .sortBy (.edit (.sortBy (titled c .column) (direction c)))
  | setValueWhere {op : Equality} (sign : Equality.ofSymbol? (symbol c) = some op) :
    Built w c .setValueWhere (.edit (.setValueWhere (titled c .target) op (titled c .condition)
      (literal w c .conditionLiteral) (literal w c .literal)))

theorem built_of_build {kind : ActionKind} {w : Wording} {c : Pieces} {r : Request}
    (h : build kind w c = some r) : Built w c kind r := by
  cases kind with
  | filterRows =>
    unfold build at h
    dsimp only at h
    split at h
    · rename_i trigger
      obtain ⟨op, sign, h⟩ := Option.bind_eq_some_iff.mp h
      obtain ⟨value, number, h⟩ := Option.bind_eq_some_iff.mp h
      cases h
      exact .filterRows trigger sign number
    · cases h
  | setValueWhere =>
    obtain ⟨op, sign, h⟩ := Option.bind_eq_some_iff.mp h
    cases h
    exact .setValueWhere sign
  | renameSheet => cases h; exact .renameSheet
  | renameColumn => cases h; exact .renameColumn
  | addColumnSum => cases h; exact .addColumnSum
  | deleteColumn => cases h; exact .deleteColumn
  | sortBy => cases h; exact .sortBy

/-- A phrase yields requests of its kind. -/
theorem kind_of_build {kind : ActionKind} {w : Wording} {c : Pieces} {r : Request}
    (h : build kind w c = some r) (sheet : Option String) : (r.onSheet sheet).kind = kind := by
  cases built_of_build h <;> rfl

/-! ### Forms -/

inductive Stretch where
  | text (s : String)
  /-- A stretch with open parts that no phrase keeps. -/
  | passed (t : Sketch)
  /-- A stretch that a phrase keeps under a name. -/
  | kept (slot : Slot) (t : Sketch)

abbrev Form := List Stretch

namespace Form

def sketch : Form → Sketch
  | [] => []
  | .text s :: f => .ofChars s.toList ++ sketch f
  | .passed t :: f | .kept _ t :: f => t ++ sketch f

/-- What a phrase is to keep, the stretch kept last in front. -/
def keeping : Form → Keeping Slot
  | [] => []
  | .text _ :: f | .passed _ :: f => keeping f
  | .kept slot t :: f => keeping f ++ [(slot, t ++ sketch f, sketch f)]

/-- The last stretch that is kept under a name. -/
def piece? (slot : Slot) : Form → Option Sketch
  | [] => none
  | .text _ :: f | .passed _ :: f => piece? slot f
  | .kept s t :: f => (piece? slot f).or (if slot = s then some t else none)

end Form

theorem Sketch.fill_append (v : Filling) (s t : Sketch) :
    Sketch.fill v (s ++ t) = s.fill v ++ t.fill v := by
  induction s with
  | nil => rfl
  | cons piece s ih => cases piece <;> simp [fill, ih]

theorem Sketch.fill_ofChars (v : Filling) (text : List Char) : (ofChars text).fill v = text := by
  induction text with
  | nil => rfl
  | cons c text ih => exact congrArg (c :: ·) ih

theorem Sketch.fits_append {v : Filling} {s t : Sketch} :
    Sketch.Fits v (s ++ t) ↔ s.Fits v ∧ t.Fits v := by
  induction s with
  | nil => simp [Fits]
  | cons piece s ih => cases piece <;> simp [Fits, ih, and_assoc]

theorem Sketch.fits_ofChars (v : Filling) (text : List Char) : (ofChars text).Fits v := by
  induction text with
  | nil => trivial
  | cons c text ih => exact ih

theorem Sketch.length_fill {u v : Filling} (h : ∀ i, (u i).length = (v i).length) (t : Sketch) :
    (t.fill u).length = (t.fill v).length := by
  induction t with
  | nil => rfl
  | cons piece t ih => cases piece <;> simp [fill, ih, h]

theorem span_chars_append (a b : List Char) : Span.chars ⟨a ++ b, b⟩ = a := by
  simp [Span.chars, Span.length]

theorem span_charsIn_append {a b a' b' : List Char} (ha : a'.length = a.length)
    (hb : b'.length = b.length) (pre : List Char) :
    Span.charsIn ⟨a ++ b, b⟩ (pre ++ (a' ++ b')) = a' := by
  have hdrop : (pre ++ (a' ++ b')).length - (a ++ b).length = pre.length := by
    simp only [List.length_append]; omega
  have htake : (a ++ b).length - b.length = a'.length := by simp [ha]
  simp only [Span.charsIn, Span.length]
  rw [hdrop, htake, List.drop_left, List.take_left]

namespace Form

variable {u v : Filling}

theorem sketch_append (f g : Form) : Form.sketch (f ++ g) = f.sketch ++ g.sketch := by
  induction f with
  | nil => rfl
  | cons stretch f ih => cases stretch <;> simp [sketch, ih]

theorem piece?_append (slot : Slot) (f g : Form) :
    Form.piece? slot (f ++ g) = (g.piece? slot).or (f.piece? slot) := by
  induction f with
  | nil => simp [piece?]
  | cons stretch f ih => cases stretch <;> simp [piece?, ih, Option.or_assoc]

theorem spans_append (v : Filling) (a b : Keeping Slot) :
    Keeping.spans v (a ++ b) = a.spans v ++ b.spans v := List.map_append

theorem lookup_spans (v : Filling) (f : Form) (slot : Slot) :
    ((f.keeping.spans v).lookup slot).map Span.chars = (f.piece? slot).map (Sketch.fill v) := by
  induction f with
  | nil => rfl
  | cons stretch f ih =>
    cases stretch with
    | text s | passed t => exact ih
    | kept s t =>
      rw [keeping, piece?, spans_append, List.lookup_append, Option.map_or, Option.map_or, ih]
      by_cases hs : slot = s
      · simp [Keeping.spans, hs, Sketch.fill_append, span_chars_append]
      · simp [Keeping.spans, List.lookup_cons, hs, beq_false_of_ne hs]

/-- The kept stretches of a form in another filling of the same lengths. -/
theorem lookup_spans_in (hlen : ∀ i, (u i).length = (v i).length) (f : Form) (slot : Slot)
    (pre : List Char) :
    ((f.keeping.spans v).lookup slot).map (·.charsIn (pre ++ f.sketch.fill u)) =
      (f.piece? slot).map (Sketch.fill u) := by
  induction f generalizing pre with
  | nil => rfl
  | cons stretch f ih =>
    cases stretch with
    | text s =>
      simpa [keeping, sketch, piece?, Sketch.fill_append, Sketch.fill_ofChars]
        using ih (pre ++ s.toList)
    | passed t =>
      simpa [keeping, sketch, piece?, Sketch.fill_append] using ih (pre ++ t.fill u)
    | kept s t =>
      have hrest := ih (pre ++ t.fill u)
      rw [List.append_assoc, ← Sketch.fill_append] at hrest
      rw [keeping, piece?, spans_append, List.lookup_append, Option.map_or, Option.map_or,
        sketch, hrest]
      by_cases hs : slot = s
      · simp [Keeping.spans, hs, Sketch.fill_append,
          span_charsIn_append (Sketch.length_fill hlen t) (Sketch.length_fill hlen (sketch f))]
      · simp [Keeping.spans, List.lookup_cons, hs, beq_false_of_ne hs]

end Form

/-! ### Reading a form -/

/-- What a phrase has kept of an instruction is what the form says: `v` fills the instruction as it
is read, `u` as it was typed. -/
structure Form.Reading (f : Form) (u v : Filling) (w : Wording) (c : Pieces) : Prop where
  read : ∀ slot, (c.piece? slot).map Span.chars = (f.piece? slot).map (Sketch.fill v)
  typed : w.aligned = true →
    ∀ slot, (c.piece? slot).map (·.charsIn w.typed) = (f.piece? slot).map (Sketch.fill u)

namespace Form.Reading

variable {f : Form} {u v : Filling} {w : Wording} {c : Pieces}

theorem read_eq (h : f.Reading u v w c) (slot : Slot) :
    Instruction.read c slot = ((f.piece? slot).map (Sketch.fill v)).getD [] := by
  rw [Instruction.read, h.read]

theorem titled_eq (h : f.Reading u v w c) (slot : Slot) :
    titled c slot = .ofList (Text.titleCase (((f.piece? slot).map (Sketch.fill v)).getD [])) := by
  rw [titled, h.read]

theorem literal_eq (h : f.Reading u v w c) (slot : Slot) :
    literal w c slot =
      .ofList (((f.piece? slot).map (Sketch.fill (if w.aligned then u else v))).getD []) := by
  cases haligned : w.aligned with
  | true => simp [literal, haligned, h.typed haligned]
  | false => simp [literal, haligned, h.read]

theorem direction_eq (h : f.Reading u v w c) :
    direction c =
      if "desc".toList.isPrefixOf (((f.piece? .direction).map (Sketch.fill v)).getD
        (((f.piece? .laterDirection).map (Sketch.fill v)).getD [])) then .descending
      else .ascending := by
  rw [direction, ← h.read, ← h.read]
  cases c.piece? .direction <;> rfl

end Form.Reading

/-- Whether the phrase at a place of the order finds a form and keeps what the form says. -/
def Form.isFoundAt (n : Nat) (f : Form) : Bool :=
  (ranked[n]?).any fun x => x.2.finds f.sketch f.keeping

/-- **Recognising a form**: the phrases tried before yield nothing, and a phrase finds the form. -/
theorem recognize_of_isFoundAt {f : Form} {u v : Filling} {w : Wording} {n : Nat}
    {kind : ActionKind} {r : Request} (hfound : f.isFoundAt n = true)
    (hkind : (ranked[n]?).map Prod.fst = some kind)
    (hmiss : ∀ x ∈ ranked.take n, (x.2.search w.lower).bind (build x.1 w) = none)
    (hfits : f.sketch.Fits v) (hlower : w.lower = f.sketch.fill v)
    (htyped : w.typed = f.sketch.fill u)
    (hlen : w.aligned = true → ∀ i, (u i).length = (v i).length)
    (hbuild : ∀ c, f.Reading u v w c → build kind w c = some r) : recognize w = some r := by
  obtain ⟨⟨kind, p⟩, hn, rfl⟩ := Option.map_eq_some_iff.mp hkind
  rw [Form.isFoundAt, hn] at hfound
  obtain ⟨c, hsearch, hkept⟩ := Pattern.search_of_finds (p := p) hfound hfits
  refine recognize_of_search hn hmiss (hlower ▸ hsearch)
    (hbuild c ⟨fun slot => ?_, fun ha slot => ?_⟩)
  · rw [Cursor.piece?, hkept]
    exact f.lookup_spans v slot
  · rw [Cursor.piece?, hkept, htyped]
    exact f.lookup_spans_in (hlen ha) slot []

end SheetCommand.Instruction

import SheetCommand.Document.Reader

/-!
# Document — what can be written

A document can be written if its integers fit into 64 bits and it is not nested too deep. The two
conditions are independent of each other (`fits_iff`), and whatever has been read satisfies the
first (`intsFit_of_read?`).
-/

namespace SheetCommand.Document

/-! ### Depth and integers -/

mutual

/-- How deep lists and objects are nested. -/
def depth : Document → Nat
  | list items => itemsDepth items + 1
  | object fields => fieldsDepth fields + 1
  | _ => 0

def itemsDepth : List Document → Nat
  | [] => 0
  | item :: items => max item.depth (itemsDepth items)

def fieldsDepth : List (String × Document) → Nat
  | [] => 0
  | (_, value) :: fields => max value.depth (fieldsDepth fields)

end

mutual

/-- Whether every integer fits into 64 bits. -/
def intsFit : Document → Bool
  | int n => !isWideInt n
  | list items => itemsIntsFit items
  | object fields => fieldsIntsFit fields
  | _ => true

def itemsIntsFit : List Document → Bool
  | [] => true
  | item :: items => item.intsFit && itemsIntsFit items

def fieldsIntsFit : List (String × Document) → Bool
  | [] => true
  | (_, value) :: fields => value.intsFit && fieldsIntsFit fields

end

mutual

theorem fits_iff : ∀ (room : Nat) (d : Document),
    d.fits room = true ↔ d.intsFit = true ∧ d.depth ≤ room
  | _, null | _, bool _ | _, real _ | _, text _ | _, moment _ => by simp [fits, intsFit, depth]
  | _, int n => by simp [fits, intsFit, depth]
  | 0, list _ | 0, object _ => by simp [fits, depth]
  | room + 1, list items => by simp [fits, intsFit, depth, itemsFit_iff]
  | room + 1, object fields => by simp [fits, intsFit, depth, fieldsFit_iff]

theorem itemsFit_iff : ∀ (room : Nat) (items : List Document),
    itemsFit room items = true ↔ itemsIntsFit items = true ∧ itemsDepth items ≤ room
  | _, [] => by simp [itemsFit, itemsIntsFit, itemsDepth]
  | room, item :: items => by
    rw [itemsFit, itemsIntsFit, itemsDepth, Bool.and_eq_true, Bool.and_eq_true, fits_iff,
      itemsFit_iff, Nat.max_le, and_and_and_comm]

theorem fieldsFit_iff : ∀ (room : Nat) (fields : List (String × Document)),
    fieldsFit room fields = true ↔ fieldsIntsFit fields = true ∧ fieldsDepth fields ≤ room
  | _, [] => by simp [fieldsFit, fieldsIntsFit, fieldsDepth]
  | room, (_, value) :: fields => by
    rw [fieldsFit, fieldsIntsFit, fieldsDepth, Bool.and_eq_true, Bool.and_eq_true, fits_iff,
      fieldsFit_iff, Nat.max_le, and_and_and_comm]

end

theorem isWritable_iff {d : Document} :
    d.isWritable = true ↔ d.intsFit = true ∧ d.depth ≤ nestingLimit :=
  fits_iff ..

theorem itemsDepth_le_iff {n : Nat} {items : List Document} :
    itemsDepth items ≤ n ↔ ∀ item ∈ items, item.depth ≤ n := by
  induction items with
  | nil => simp [itemsDepth]
  | cons item items ih => rw [itemsDepth, Nat.max_le, ih, List.forall_mem_cons]

theorem fieldsDepth_le_iff {n : Nat} {fields : List (String × Document)} :
    fieldsDepth fields ≤ n ↔ ∀ field ∈ fields, field.2.depth ≤ n := by
  induction fields with
  | nil => simp [fieldsDepth]
  | cons field fields ih => rw [fieldsDepth, Nat.max_le, ih, List.forall_mem_cons]

/-- A list is one deeper than the deepest of its items. -/
theorem depth_list_le {n : Nat} {items : List Document} (h : ∀ item ∈ items, item.depth ≤ n) :
    (list items).depth ≤ n + 1 :=
  Nat.succ_le_succ (itemsDepth_le_iff.mpr h)

theorem depth_list_map_le {α : Type} {n : Nat} {encode : α → Document} (xs : List α)
    (h : ∀ x ∈ xs, (encode x).depth ≤ n) : (list (xs.map encode)).depth ≤ n + 1 :=
  depth_list_le (List.forall_mem_map.mpr h)

theorem depth_object_le {n : Nat} {fields : List (String × Document)}
    (h : ∀ field ∈ fields, field.2.depth ≤ n) : (object fields).depth ≤ n + 1 :=
  Nat.succ_le_succ (fieldsDepth_le_iff.mpr h)

theorem intsFit_of_lookup {fields : List (String × Document)} {name : String} {d : Document}
    (h : fieldsIntsFit fields = true) (hd : fields.lookup name = some d) : d.intsFit = true := by
  induction fields with
  | nil => cases hd
  | cons field fields ih =>
    obtain ⟨other, value⟩ := field
    rw [fieldsIntsFit, Bool.and_eq_true] at h
    rw [List.lookup_cons] at hd
    split at hd
    · cases hd
      exact h.1
    · exact ih h.2 hd

/-! ### What has been read -/

mutual

theorem intsFit_of_narrow? : ∀ {d d' : Document}, narrow? d = some d' → d'.intsFit = true
  | null, _, h | bool _, _, h | real _, _, h | text _, _, h | moment _, _, h => by
    cases h; rfl
  | int n, d', h => by
    unfold narrow? narrowInt? at h
    split at h
    · dsimp only at h
      split at h <;> cases h
      rfl
    · rename_i hn
      cases h
      simpa [intsFit] using hn
  | list items, d', h => by
    rw [narrow?] at h
    obtain ⟨items', h', rfl⟩ := Option.map_eq_some_iff.mp h
    exact itemsIntsFit_of_narrowItems? h'
  | object fields, d', h => by
    rw [narrow?] at h
    obtain ⟨fields', h', rfl⟩ := Option.map_eq_some_iff.mp h
    exact fieldsIntsFit_of_narrowFields? h'

theorem itemsIntsFit_of_narrowItems? : ∀ {items items' : List Document},
    narrowItems? items = some items' → itemsIntsFit items' = true
  | [], _, h => by cases h; rfl
  | item :: items, _, h => by
    simp only [narrowItems?, Option.bind_eq_bind, Option.bind_eq_some_iff] at h
    obtain ⟨_, hitem, _, hitems, e⟩ := h
    cases e
    rw [itemsIntsFit, intsFit_of_narrow? hitem, itemsIntsFit_of_narrowItems? hitems, Bool.and_self]

theorem fieldsIntsFit_of_narrowFields? : ∀ {fields fields' : List (String × Document)},
    narrowFields? fields = some fields' → fieldsIntsFit fields' = true
  | [], _, h => by cases h; rfl
  | (_, value) :: fields, _, h => by
    simp only [narrowFields?, Option.bind_eq_bind, Option.bind_eq_some_iff] at h
    obtain ⟨_, hvalue, _, hfields, e⟩ := h
    cases e
    rw [fieldsIntsFit, intsFit_of_narrow? hvalue, fieldsIntsFit_of_narrowFields? hfields,
      Bool.and_self]

end

theorem intsFit_of_read? {source : String} {d : Document} (h : read? source = some d) :
    d.intsFit = true := by
  obtain ⟨exact, -, hd⟩ := Option.bind_eq_some_iff.mp h
  exact intsFit_of_narrow? hd

end SheetCommand.Document

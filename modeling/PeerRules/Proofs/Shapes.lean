import PeerRules.Json.Shape

/-!
# What is read of a shape

A reader of a shape goes along the text and along the shape at once, and gives what it has found as
a document. Whatever the text, that document has the shape: an integer is in the range that was
asked for, and a record has no members but its fields, each with a value of its own shape, or with
`null` where that may stand.

* `Reader.Yields`: what holds of all that a reader may read.
* `Shape.sound`: readers of documents, of fields, of items and of members, by the number of steps.
* `Shape.fits_of_parse`: what is read of a shape has the shape.
-/
namespace PeerRules.Json

namespace Reader

variable {α β : Type} {r : Reader α} {a : α} {P : α → Prop} {Q : β → Prop}

def Yields (r : Reader α) (P : α → Prop) : Prop := ∀ c a c', r c = .ok (a, c') → P a

theorem Yields.pure (h : P a) : Yields (pure a) P := by
  rintro c _ _ ⟨⟩
  exact h

theorem Yields.bind {f : α → Reader β} (hr : Yields r P) (hf : ∀ a, P a → Yields (f a) Q) :
    Yields (r >>= f) Q := by
  intro c b c' h
  change (r c >>= fun p => f p.1 p.2) = .ok (b, c') at h
  cases hc : r c with
  | error refusal =>
    rw [hc] at h
    cases h
  | ok p =>
    rw [hc] at h
    exact hf p.1 (hr c _ _ hc) p.2 b c' h

/-- What comes first may read anything. -/
theorem Yields.after {f : α → Reader β} (hf : ∀ a, Yields (f a) Q) : Yields (r >>= f) Q :=
  .bind (P := fun _ => True) (fun _ _ _ _ => trivial) fun a _ => hf a

theorem Yields.refuseAhead (p : Problem) : Yields (refuseAhead p) P := nofun

theorem Yields.refuseHere (p : Problem) : Yields (refuseHere p) P := nofun

theorem Yields.run {text : String} (h : Yields r P) (ha : run r text = .ok a) : P a := by
  unfold Reader.run at ha
  cases hc : r (Cursor.start text) with
  | error refusal =>
    rw [hc] at ha
    cases ha
  | ok p =>
    rw [hc] at ha
    cases ha
    exact h _ _ _ hc

end Reader

namespace Shape

open Reader

mutual

/-- The document has the shape, and is in normal form. -/
inductive Fits : Shape → Value → Prop where
  | any (v : Value) : Fits .any v
  | text (s : String) : Fits .text (.string s)
  | flag (b : Bool) : Fits .flag (.bool b)
  | signed {n : Int} (h : fitsSigned n = true) : Fits .signed (.number (.int n))
  | list {item : Shape} {items : List Value} (h : ∀ v ∈ items, Fits item v) :
      Fits (.list item) (.array items)
  | record {title : String} {fields : List (Field Shape)} {members : Members}
      (h : ∀ k v, (k, v) ∈ members → FitsOneOf fields k v) :
      Fits (.record title fields) (.object members)

/-- The member is one of the fields: its value has the shape of the field, or is `null` where that
may stand. -/
inductive FitsOneOf : List (Field Shape) → String → Value → Prop where
  | value {fields : List (Field Shape)} {f : Field Shape} {v : Value} (hf : f ∈ fields)
      (h : Fits f.shape v) : FitsOneOf fields f.key v
  | null {fields : List (Field Shape)} {f : Field Shape} (hf : f ∈ fields)
      (h : f.nullable = true) : FitsOneOf fields f.key .null

end

theorem fits_checkSigned {n : Number} {v : Value} (h : checkSigned n = .ok v) : Fits .signed v := by
  unfold checkSigned at h
  split at h
  · split at h
    · next hfits =>
      cases h
      exact .signed hfits
    · cases h
  · cases h

/-- What a reader of fields has found, if nothing is wrong with it. -/
def Found (fields : List (Field Shape)) (p : Pending) : Prop :=
  ∀ members, p = .ok members → ∀ k v, (k, v) ∈ members → FitsOneOf fields k v

theorem found_error (fields : List (Field Shape)) (m : Mismatch) : Found fields (.error m) := nofun

/-! ## Readers of shapes -/

/-- Whatever is read in a number of steps has the shape that was asked for. -/
structure Sound (fuel : Nat) : Prop where
  document : ∀ depth shape, Yields (readWith fuel depth shape) (Fits shape)
  field : ∀ depth f, Yields (readField fuel depth f) (FitsOneOf [f] f.key)
  items : ∀ depth item first,
    Yields (readItems fuel depth item first) fun vs => ∀ v ∈ vs, Fits item v
  places : ∀ depth title total count fields first,
    Yields (readPlaces fuel depth title total count fields first) (Found fields)
  members : ∀ depth fields first found, (∀ k v, (k, v) ∈ found → FitsOneOf fields k v) →
    Yields (readMembers fuel depth fields first found) (Found fields)

theorem FitsOneOf.mono {fields fields' : List (Field Shape)} {k : String} {v : Value}
    (h : FitsOneOf fields k v) (hsub : fields ⊆ fields') : FitsOneOf fields' k v := by
  cases h with
  | value hf h => exact .value (hsub hf) h
  | null hf h => exact .null (hsub hf) h

theorem yields_refuseKind (shape : Shape) (c : Char) {P : Value → Prop} :
    Yields (refuseKind shape c) P := by
  unfold refuseKind
  split
  · exact .refuseHere _
  · split
    · exact .refuseHere _
    · exact .after fun _ => .refuseHere _

theorem yields_endRecord {title : String} {fields : List (Field Shape)} {ending : Reader Unit}
    {p : Pending} (h : Found fields p) :
    Yields (endRecord ending p) (Fits (.record title fields)) := by
  cases p with
  | ok members => exact .after fun _ => .pure (.record (h members rfl))
  | error m => exact nofun

theorem yields_word (v : Value) (w : List Char) {P : Value → Prop} (h : P v) :
    Yields (do skip; word w; pure v) P :=
  .after fun _ => .after fun _ => .pure h

theorem sound_zero : Sound 0 where
  document _ _ := by
    rw [readWith.eq_1]
    exact .refuseAhead _
  field _ _ := by
    rw [readField.eq_1]
    exact .refuseAhead _
  items _ _ _ := by
    rw [readItems.eq_1]
    exact .refuseAhead _
  places _ _ _ _ _ _ := by
    rw [readPlaces.eq_1]
    exact .refuseAhead _
  members _ _ _ _ _ := by
    rw [readMembers.eq_1]
    exact .refuseAhead _

theorem Sound.step_document {fuel : Nat} (h : Sound fuel) (depth : Nat) (shape : Shape) :
    Yields (readWith (fuel + 1) depth shape) (Fits shape) := by
  by_cases hany : shape = .any
  · subst hany
    exact fun _ v _ _ => .any v
  · rw [readWith.eq_3 _ _ _ hany]
    refine .after fun c => ?_
    split
    · exact .refuseAhead _
    · -- The shape and the first character say together which reader goes on.
      split
      · exact .after fun _ => .after fun s => .pure (.text s)
      · exact yields_word _ _ (.flag true)
      · exact yields_word _ _ (.flag false)
      · split
        · exact .refuseAhead _
        · exact .after fun _ => .bind (h.items _ _ _) fun vs hvs => .after fun _ =>
            .pure (.list hvs)
      · split
        · exact .refuseAhead _
        · exact .after fun _ => .bind (h.places _ _ _ _ _ _) fun p hp => yields_endRecord hp
      · split
        · exact .refuseAhead _
        · exact .after fun _ => .bind (h.members _ _ _ _ (by simp)) fun p hp => yields_endRecord hp
      · split
        · refine .after fun v => ?_
          split
          · split
            · next hv => exact .pure (fits_checkSigned hv)
            · exact .refuseHere _
          · exact .refuseHere _
        · exact yields_refuseKind _ _
      · exact yields_refuseKind _ _

theorem Sound.step_field {fuel : Nat} (h : Sound fuel) (depth : Nat) (f : Field Shape) :
    Yields (readField (fuel + 1) depth f) (FitsOneOf [f] f.key) := by
  have hvalue : Yields (readWith fuel depth f.shape) (FitsOneOf [f] f.key) := fun c v c' hv =>
    .value (List.mem_singleton_self f) (h.document depth f.shape c v c' hv)
  rw [readField.eq_2]
  split
  · next hnullable =>
    refine .after fun c => ?_
    split
    · exact yields_word _ _ (.null (List.mem_singleton_self f) hnullable)
    · exact hvalue
  · exact hvalue

theorem Sound.step_items {fuel : Nat} (h : Sound fuel) (depth : Nat) (item : Shape) (first : Bool) :
    Yields (readItems (fuel + 1) depth item first) fun vs => ∀ v ∈ vs, Fits item v := by
  rw [readItems.eq_2]
  refine .after fun more => ?_
  split
  · refine .bind (h.document depth item) fun v hv => .bind (h.items depth item false) fun vs hvs =>
      .pure ?_
    exact List.forall_mem_cons.2 ⟨hv, hvs⟩
  · exact .pure (by simp)

theorem Sound.step_places {fuel : Nat} (h : Sound fuel) (depth : Nat) (title : String)
    (total count : Nat) (fields : List (Field Shape)) (first : Bool) :
    Yields (readPlaces (fuel + 1) depth title total count fields first) (Found fields) := by
  cases fields with
  | nil =>
    rw [readPlaces.eq_2]
    refine .pure ?_
    rintro _ ⟨⟩
    simp
  | cons f fields =>
    rw [readPlaces.eq_3]
    refine .after fun more => ?_
    split
    · refine .bind (h.field depth f) fun v hv =>
        .bind (h.places depth title total (count + 1) fields false) fun rest hrest => .pure ?_
      cases rest with
      | error m => exact found_error _ m
      | ok rest =>
        rintro _ ⟨⟩ k w hw
        rcases List.mem_cons.1 hw with hw | hw
        · cases hw
          exact hv.mono (by simp)
        · exact (hrest rest rfl k w hw).mono (List.subset_cons_self _ _)
    · refine .pure fun members hmembers => ?_
      cases hrest : checkRest title total count (f :: fields) with
      | error m => simp [hrest, Except.map] at hmembers
      | ok _ =>
        rw [hrest] at hmembers
        cases hmembers
        simp

theorem Sound.step_members {fuel : Nat} (h : Sound fuel) (depth : Nat)
    (fields : List (Field Shape)) (first : Bool) {found : Members}
    (hfound : ∀ k v, (k, v) ∈ found → FitsOneOf fields k v) :
    Yields (readMembers (fuel + 1) depth fields first found) (Found fields) := by
  rw [readMembers.eq_2]
  refine .after fun more => ?_
  split
  · refine .after fun k => ?_
    split
    · exact .after fun _ => .after fun _ => h.members depth fields false found hfound
    · next f hf =>
      obtain ⟨hmem, hkey⟩ : f ∈ fields ∧ f.key = k := by
        unfold Field.find? at hf
        exact ⟨List.mem_of_find?_eq_some hf, by simpa using List.find?_some hf⟩
      split
      · exact .pure (found_error _ _)
      · refine .after fun _ => .bind (h.field depth f) fun v hv => ?_
        -- What is read next goes behind the members found so far, and is a field like them.
        refine h.members depth fields false _ fun k' w hw => ?_
        rcases List.mem_append.1 hw with hw | hw
        · exact hfound k' w hw
        · obtain ⟨rfl, rfl⟩ := Prod.mk.inj (List.mem_singleton.1 hw)
          rw [← hkey]
          exact hv.mono (by simpa using hmem)
  · split
    · exact .pure (found_error _ _)
    · refine .pure ?_
      rintro _ ⟨⟩
      exact hfound

/-- By induction on the number of steps, for all readers at once, since each goes on with others. -/
theorem sound (fuel : Nat) : Sound fuel := by
  induction fuel with
  | zero => exact sound_zero
  | succ fuel ih =>
    exact ⟨ih.step_document, ih.step_field, ih.step_items, ih.step_places,
      fun depth fields first _ => ih.step_members depth fields first⟩

/-- **What is read of a shape** has that shape. -/
theorem fits_of_parse {shape : Shape} {text : String} {v : Value} (h : shape.parse text = .ok v) :
    Fits shape v := by
  refine Yields.run ?_ h
  refine .bind ?_ fun v hv => .after fun _ => .pure hv
  exact .after fun steps => (sound _).document _ _

theorem Fits.exists_members {title : String} {fields : List (Field Shape)} {doc : Value}
    (h : Fits (.record title fields) doc) : ∃ members, doc = .object members := by
  cases h with
  | record => exact ⟨_, rfl⟩

/-- What is found in a record belongs to one of its fields. -/
theorem Fits.get? {title key : String} {fields : List (Field Shape)} {doc v : Value}
    (h : Fits (.record title fields) doc) (hv : doc.get? key = some v) :
    ∃ f ∈ fields, f.key = key ∧ (Fits f.shape v ∨ f.nullable = true ∧ v = .null) := by
  cases h with
  | record h =>
    cases h key v (Members.mem_of_find? hv) with
    | value hf hfits => exact ⟨_, hf, rfl, .inl hfits⟩
    | null hf hnullable => exact ⟨_, hf, rfl, .inr ⟨hnullable, rfl⟩⟩

/-- What is found at a key of which the shape is known. -/
theorem Fits.of_get? {title key : String} {fields : List (Field Shape)} {doc v : Value}
    {shape : Shape} (h : Fits (.record title fields) doc) (hv : doc.get? key = some v)
    (hkey : ∀ f ∈ fields, f.key = key → f.shape = shape ∧ f.nullable = false) : Fits shape v := by
  obtain ⟨f, hf, hfkey, hfits | ⟨hnullable, -⟩⟩ := h.get? hv
  · exact (hkey f hf hfkey).1 ▸ hfits
  · exact absurd ((hkey f hf hfkey).2.symm.trans hnullable) Bool.false_ne_true

end Shape

end PeerRules.Json

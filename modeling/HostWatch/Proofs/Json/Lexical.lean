import HostWatch.Json.Shape

/-!
# Strings and brackets of a text

What is read of a text can be told apart byte by byte, without knowing what it means: a byte stands
inside a string or outside, and outside of strings brackets open and close containers.

1. `skeleton` keeps the bytes outside of strings, `nesting` counts the containers that stay open.
2. A reader of strings leads from the inside of a string to its outside (`Within`).
3. Every other reader leads from outside of strings to outside again, and leaves as many containers
   open as it found (`Spans`).
-/

namespace HostWatch.Json

/-! ## Bytes outside of strings -/

/-- Where a byte stands. -/
inductive Mode where
  | outside
  | inside
  /-- Behind a backslash inside a string. -/
  | escaped
  deriving DecidableEq

/-- Where the byte behind `b` stands. -/
def Mode.step : Mode → UInt8 → Mode
  | .outside, b => if b = 0x22 then .inside else .outside
  | .inside, b => if b = 0x22 then .outside else if b = 0x5C then .escaped else .inside
  | .escaped, _ => .inside

/-- Where the byte behind some bytes stands. -/
def Mode.after (m : Mode) (bytes : List UInt8) : Mode := bytes.foldl Mode.step m

/-- The bytes outside of strings; of a string only its opening quote is one. -/
def skeleton : Mode → List UInt8 → List UInt8
  | _, [] => []
  | .outside, b :: bytes => b :: skeleton (Mode.outside.step b) bytes
  | m, b :: bytes => skeleton (m.step b) bytes

/-- How many containers a byte opens. -/
def opening (b : UInt8) : Int :=
  if b = 0x5B ∨ b = 0x7B then 1 else if b = 0x5D ∨ b = 0x7D then -1 else 0

/-- How many containers are open behind some bytes, of those that they open. -/
def nesting : List UInt8 → Int
  | [] => 0
  | b :: bytes => opening b + nesting bytes

theorem Mode.after_append (m : Mode) (a b : List UInt8) :
    m.after (a ++ b) = (m.after a).after b := List.foldl_append

theorem skeleton_append (m : Mode) (a b : List UInt8) :
    skeleton m (a ++ b) = skeleton m a ++ skeleton (m.after a) b := by
  induction a generalizing m with
  | nil => rfl
  | cons c a ih =>
    cases m with
    | outside => exact congrArg (c :: ·) (ih (Mode.outside.step c))
    | inside => exact ih (Mode.inside.step c)
    | escaped => exact ih (Mode.escaped.step c)

theorem nesting_append (a b : List UInt8) : nesting (a ++ b) = nesting a + nesting b := by
  induction a with
  | nil => exact (Int.zero_add _).symm
  | cons c a ih => rw [List.cons_append, nesting, nesting, ih, Int.add_assoc]

/-! ## From one cursor to another -/

/-- The bytes between two cursors lead from one mode to another, none of them outside of strings. -/
def Within (m m' : Mode) (c c' : Cursor) : Prop :=
  ∃ w, c.rest = w ++ c'.rest ∧ m.after w = m' ∧ skeleton m w = []

/-- The bytes between two cursors lead from outside of strings to outside again, and open `n`
containers. -/
def Spans (n : Int) (c c' : Cursor) : Prop :=
  ∃ w, c.rest = w ++ c'.rest ∧ Mode.outside.after w = .outside ∧
    nesting (skeleton .outside w) = n

theorem Within.trans {m m₁ m₂ : Mode} {c c₁ c₂ : Cursor} (h : Within m m₁ c c₁)
    (h' : Within m₁ m₂ c₁ c₂) : Within m m₂ c c₂ := by
  obtain ⟨w, rest, mode, bare⟩ := h
  obtain ⟨w', rest', mode', bare'⟩ := h'
  refine ⟨w ++ w', by rw [rest, rest', List.append_assoc], by rw [Mode.after_append, mode, mode'], ?_⟩
  rw [skeleton_append, mode, bare, bare', List.append_nil]

theorem Spans.refl (c : Cursor) : Spans 0 c c := ⟨[], rfl, rfl, rfl⟩

theorem Spans.trans {n n' : Int} {c c₁ c₂ : Cursor} (h : Spans n c c₁) (h' : Spans n' c₁ c₂) :
    Spans (n + n') c c₂ := by
  obtain ⟨w, rest, mode, count⟩ := h
  obtain ⟨w', rest', mode', count'⟩ := h'
  refine ⟨w ++ w', by rw [rest, rest', List.append_assoc], by rw [Mode.after_append, mode, mode'], ?_⟩
  rw [skeleton_append, mode, nesting_append, count, count']

/-- Two parts of which the first opens as many containers as it closes. -/
theorem Spans.next {n : Int} {c c₁ c₂ : Cursor} (h : Spans 0 c c₁) (h' : Spans n c₁ c₂) :
    Spans n c c₂ := by
  have := h.trans h'
  rwa [Int.zero_add] at this

/-- The bytes ahead of a later cursor are the last of those ahead of an earlier one. -/
theorem Spans.suffix {n : Int} {c c' : Cursor} (h : Spans n c c') : c'.rest <:+ c.rest := by
  obtain ⟨w, rest, -⟩ := h
  exact ⟨w, rest.symm⟩

theorem rest_of_peek? {c : Cursor} {b : UInt8} (h : c.peek? = some b) :
    c.rest = b :: c.advance.rest := by
  obtain ⟨rest, place⟩ := c
  cases rest with
  | nil => cases h
  | cons x rest =>
    obtain rfl := Option.some.inj h
    rfl

theorem within_advance {c : Cursor} {b : UInt8} (h : c.peek? = some b) {m : Mode}
    (inside : m ≠ .outside) : Within m (m.step b) c c.advance := by
  refine ⟨[b], rest_of_peek? h, rfl, ?_⟩
  cases m with
  | outside => exact absurd rfl inside
  | inside | escaped => rfl

theorem spans_advance {c : Cursor} {b : UInt8} (h : c.peek? = some b) (quote : b ≠ 0x22) :
    Spans (opening b) c c.advance := by
  refine ⟨[b], rest_of_peek? h, ?_, ?_⟩
  · show Mode.step .outside b = .outside
    rw [Mode.step, if_neg quote]
  · show nesting [b] = opening b
    exact Int.add_zero _

/-- A string, from its opening quote on. -/
theorem Within.spans {c c' : Cursor} (h : c.peek? = some 0x22)
    (inside : Within .inside .outside c.advance c') : Spans 0 c c' := by
  obtain ⟨w, rest, mode, bare⟩ := inside
  refine ⟨0x22 :: w, by rw [rest_of_peek? h, rest]; rfl, mode, ?_⟩
  show nesting (0x22 :: skeleton .inside w) = 0
  rw [bare]
  rfl

theorem spans_skipGap (c : Cursor) : Spans 0 c c.skipGap := by
  obtain ⟨rest, place⟩ := c
  unfold Cursor.skipGap
  induction rest generalizing place with
  | nil => exact Spans.refl _
  | cons b rest ih =>
    rw [show skipGapFrom (Cursor.mk (b :: rest) place).rest (Cursor.mk (b :: rest) place).place =
      if isGapByte b then skipGapFrom rest (place.after b) else ⟨b :: rest, place⟩ from rfl]
    split
    · next gap =>
      have other : b ≠ 0x22 ∧ opening b = 0 := by
        unfold isGapByte at gap
        simp only [Bool.or_eq_true, decide_eq_true_eq] at gap
        rcases gap with ((rfl | rfl) | rfl) | rfl <;> decide
      have first := spans_advance (c := ⟨b :: rest, place⟩) rfl other.1
      rw [other.2] at first
      exact first.next (ih _)
    · exact Spans.refl _

/-! ## Steps in a row -/

theorem bind_eq_ok {x : Except ε α} {f : α → Except ε β} {b : β} (h : (x >>= f) = .ok b) :
    ∃ a, x = .ok a ∧ f a = .ok b := by
  cases x with
  | error e => cases h
  | ok a => exact ⟨a, rfl, h⟩

theorem bind_eq_ok_iff {x : Except ε α} {f : α → Except ε β} {b : β} :
    (x >>= f) = .ok b ↔ ∃ a, x = .ok a ∧ f a = .ok b :=
  ⟨bind_eq_ok, fun ⟨_, given, made⟩ => given ▸ made⟩

theorem bind_eq_error {x : Except ε α} {f : α → Except ε β} {e : ε} (h : (x >>= f) = .error e) :
    x = .error e ∨ ∃ a, x = .ok a ∧ f a = .error e := by
  cases x with
  | error e' => exact .inl (congrArg Except.error (Except.error.inj h))
  | ok a => exact .inr ⟨a, rfl, h⟩

theorem mapError_eq_error {x : Except ε α} {f : ε → ε'} {e : ε'} (h : x.mapError f = .error e) :
    ∃ e', x = .error e' ∧ f e' = e := by
  cases x with
  | error e' => exact ⟨e', rfl, Except.error.inj h⟩
  | ok a => cases h

theorem mapError_eq_ok_iff {x : Except ε α} {f : ε → ε'} {a : α} :
    x.mapError f = .ok a ↔ x = .ok a := by
  cases x with
  | error e => exact ⟨nofun, nofun⟩
  | ok a' => exact ⟨fun h => congrArg Except.ok (Except.ok.inj h),
      fun h => congrArg Except.ok (Except.ok.inj h)⟩

theorem map_eq_ok {x : Except ε α} {f : α → β} {b : β} (h : x.map f = .ok b) :
    ∃ a, x = .ok a ∧ f a = b := by
  cases x with
  | error e => cases h
  | ok a => exact ⟨a, rfl, Except.ok.inj h⟩

theorem toOption_eq_some_iff {x : Except ε α} {a : α} : x.toOption = some a ↔ x = .ok a := by
  cases x with
  | error e => exact ⟨nofun, nofun⟩
  | ok b => exact ⟨fun h => congrArg Except.ok (Option.some.inj h),
      fun h => congrArg some (Except.ok.inj h)⟩

/-! ## Strings -/

theorem peek?_of_expectInString {c : Cursor} {b : UInt8} (h : expectInString c = .ok b) :
    c.peek? = some b := by
  obtain ⟨rest, place⟩ := c
  cases rest with
  | nil => cases h
  | cons x rest =>
    obtain rfl := Except.ok.inj h
    rfl

/-- A byte of a string that neither ends it nor begins an escape. -/
theorem within_plain {c : Cursor} {b : UInt8} (h : c.peek? = some b) (quote : b ≠ 0x22)
    (slash : b ≠ 0x5C) : Within .inside .inside c c.advance := by
  have step : Mode.step .inside b = .inside := by rw [Mode.step, if_neg quote, if_neg slash]
  have advanced := within_advance (m := .inside) h (by decide)
  rwa [step] at advanced

theorem within_hexDigit {c : Cursor} {b : UInt8} {v : Nat} (h : c.peek? = some b)
    (digit : hexValue? b = some v) : Within .inside .inside c c.advance := by
  refine within_plain h ?_ ?_ <;>
    · rintro rfl
      cases digit

theorem within_hexFour {c c' : Cursor} {n : Nat} (h : readHexFour c = .ok (n, c')) :
    Within .inside .inside c c' := by
  obtain ⟨rest, place⟩ := c
  unfold readHexFour at h
  dsimp only at h
  split at h
  · split at h
    · next digits =>
      obtain ⟨rfl, rfl⟩ := Prod.mk.inj (Except.ok.inj h)
      unfold hexFour? at digits
      simp only [Option.bind_eq_bind, Option.bind_eq_some_iff] at digits
      obtain ⟨_, ha, _, hb, _, hd, _, he, -⟩ := digits
      exact (within_hexDigit rfl ha).trans ((within_hexDigit rfl hb).trans
        ((within_hexDigit rfl hd).trans (within_hexDigit rfl he)))
    · cases h
  · cases h

/-- A backslash, and the letter of a `\u` escape. -/
theorem within_letterU {c : Cursor} (slash : c.peek? = some 0x5C)
    (letter : c.advance.peek? = some 0x75) : Within .inside .inside c c.advance.advance :=
  (within_advance (m := .inside) slash (by decide)).trans (within_advance letter (by decide))

theorem within_lowSurrogate {high : Nat} {c c' : Cursor} {char : Char}
    (h : readLowSurrogate high c = .ok (char, c')) : Within .inside .inside c c' := by
  unfold readLowSurrogate at h
  obtain ⟨b, slash, h⟩ := bind_eq_ok h
  split at h
  · cases h
  · next isSlash =>
    obtain ⟨b', letter, h⟩ := bind_eq_ok h
    split at h
    · cases h
    · next isLetter =>
      obtain ⟨⟨low, c₁⟩, digits, h⟩ := bind_eq_ok h
      dsimp only at h
      split at h
      · obtain ⟨rfl, rfl⟩ := Prod.mk.inj (Except.ok.inj h)
        obtain rfl := Decidable.not_not.1 isSlash
        obtain rfl := Decidable.not_not.1 isLetter
        exact (within_letterU (peek?_of_expectInString slash)
          (peek?_of_expectInString letter)).trans (within_hexFour digits)
      · cases h

theorem within_unicodeEscape {c c' : Cursor} {char : Char}
    (h : readUnicodeEscape c = .ok (char, c')) : Within .inside .inside c c' := by
  unfold readUnicodeEscape at h
  obtain ⟨⟨n, c₁⟩, first, h⟩ := bind_eq_ok h
  dsimp only at h
  split at h
  · cases h
  · split at h
    · exact (within_hexFour first).trans (within_lowSurrogate h)
    · obtain ⟨rfl, rfl⟩ := Prod.mk.inj (Except.ok.inj h)
      exact within_hexFour first

theorem within_escape {c c' : Cursor} {bytes : List UInt8} (h : readEscape c = .ok (bytes, c')) :
    Within .escaped .inside c c' := by
  unfold readEscape at h
  obtain ⟨b, letter, h⟩ := bind_eq_ok h
  have first : Within .escaped .inside c c.advance :=
    within_advance (peek?_of_expectInString letter) (by decide)
  split at h
  · obtain ⟨⟨char, c₁⟩, digits, h⟩ := bind_eq_ok h
    obtain ⟨rfl, rfl⟩ := Prod.mk.inj (Except.ok.inj h)
    exact first.trans (within_unicodeEscape digits)
  · split at h
    · obtain ⟨rfl, rfl⟩ := Prod.mk.inj (Except.ok.inj h)
      exact first
    · cases h

/-- The loop over the bytes of a string leads out of it. -/
theorem within_stringBytes {bound read : List UInt8} {c c' : Cursor} {bytes : List UInt8}
    (h : readStringBytes bound read c = .ok (bytes, c')) : Within .inside .outside c c' := by
  induction bound generalizing read c with
  | nil => cases h
  | cons _ bound ih =>
    obtain ⟨rest, place⟩ := c
    unfold readStringBytes at h
    dsimp only at h
    split at h
    · cases h
    · next b tail =>
      have here : Cursor.peek? ⟨b :: tail, place⟩ = some b := rfl
      split at h
      · next quote =>
        obtain ⟨rfl, rfl⟩ := Prod.mk.inj (Except.ok.inj h)
        subst quote
        exact within_advance here (by decide)
      · next quote =>
        split at h
        · next slash =>
          subst slash
          split at h
          · cases h
          · next escape =>
            exact (within_advance (m := .inside) here (by decide)).trans
              ((within_escape escape).trans (ih h))
        · next slash =>
          split at h
          · cases h
          · exact (within_plain here quote slash).trans (ih h)

theorem within_string {c c' : Cursor} {s : String} (h : readString c = .ok (s, c')) :
    Within .inside .outside c c' := by
  unfold readString at h
  split at h
  · cases h
  · next bytes =>
    split at h
    · obtain ⟨rfl, rfl⟩ := Prod.mk.inj (Except.ok.inj h)
      exact within_stringBytes bytes
    · cases h

/-! ## Words and numbers -/

/-- A byte that means nothing to strings and containers. -/
def Neutral (b : UInt8) : Prop := b ≠ 0x22 ∧ opening b = 0

instance (b : UInt8) : Decidable (Neutral b) := by unfold Neutral; infer_instance

theorem Neutral.spans {c : Cursor} {b : UInt8} (h : c.peek? = some b) (neutral : Neutral b) :
    Spans 0 c c.advance := neutral.2 ▸ spans_advance h neutral.1

theorem neutral_of_all {bytes : List UInt8} (h : bytes.all (decide <| Neutral ·) = true) :
    ∀ b ∈ bytes, Neutral b := fun b hb => of_decide_eq_true (List.all_eq_true.1 h b hb)

theorem spans_word {word : List UInt8} (neutral : ∀ b ∈ word, Neutral b) {c c' : Cursor}
    (h : readWord word c = .ok c') : Spans 0 c c' := by
  induction word generalizing c with
  | nil =>
    obtain rfl := Except.ok.inj h
    exact Spans.refl c
  | cons w word ih =>
    obtain ⟨rest, place⟩ := c
    unfold readWord at h
    dsimp only at h
    split at h
    · cases h
    · next b tail =>
      split at h
      · next same =>
        subst same
        exact (Neutral.spans rfl (neutral b List.mem_cons_self)).next
          (ih (fun x hx => neutral x (List.mem_cons_of_mem _ hx)) h)
      · cases h

/-- A word behind its first letter, and whatever it stands for. -/
theorem spans_letter {b : UInt8} {word : List UInt8}
    (neutral : (b :: word).all (decide <| Neutral ·) = true) {c c' : Cursor} {a a' : α}
    (letter : c.peek? = some b) (h : (readWord word c.advance).map (a, ·) = .ok (a', c')) :
    Spans 0 c c' := by
  obtain ⟨hb, others⟩ := List.forall_mem_cons.1 (neutral_of_all neutral)
  obtain ⟨c₂, read, e⟩ := map_eq_ok h
  obtain ⟨-, rfl⟩ := Prod.mk.inj e
  exact (hb.spans letter).next (spans_word others read)

theorem neutral_of_digit {b : UInt8} {d : Nat} (h : digitValue? b = some d) : Neutral b := by
  refine ⟨?_, ?_⟩
  · rintro rfl
    cases h
  · unfold opening
    rw [if_neg, if_neg] <;>
      · rintro (rfl | rfl) <;> cases h

theorem spans_digitsFrom (rest : List UInt8) (place : Place) :
    Spans 0 ⟨rest, place⟩ (digitsFrom rest place).2 := by
  induction rest generalizing place with
  | nil => exact Spans.refl _
  | cons b rest ih =>
    rw [digitsFrom]
    split
    · exact Spans.refl _
    · next d digit => exact (Neutral.spans rfl (neutral_of_digit digit)).next (ih _)

theorem spans_digits {c c' : Cursor} {ds : List Nat} (h : c.digits = (ds, c')) : Spans 0 c c' := by
  have := spans_digitsFrom c.rest c.place
  rw [show digitsFrom c.rest c.place = (ds, c') from h] at this
  exact this

theorem spans_finishFloat {positive : Bool} {n : Nat} {exponent : Int} {c c' : Cursor} {a : Number}
    (h : finishFloat positive n exponent c = .ok (a, c')) : Spans 0 c c' := by
  unfold finishFloat at h
  split at h
  · obtain ⟨rfl, rfl⟩ := Prod.mk.inj (Except.ok.inj h)
    exact Spans.refl c
  · cases h

/-- A sign, if there is one. -/
theorem spans_sign (c : Cursor) {x y : UInt8} (hx : Neutral x) (hy : Neutral y) :
    Spans 0 c (if c.peek? = some x ∨ c.peek? = some y then c.advance else c) := by
  split
  · next sign => exact sign.elim (fun h => hx.spans h) fun h => hy.spans h
  · exact Spans.refl c

theorem spans_readExponent {positive : Bool} {n : Nat} {exponent : Int} {c c' : Cursor} {a : Number}
    (h : readExponent positive n exponent c = .ok (a, c')) : Spans 0 c c' := by
  have sign := spans_sign c (x := 0x2D) (y := 0x2B) (by decide) (by decide)
  unfold readExponent at h
  dsimp only at h
  generalize (if c.peek? = some 0x2D ∨ c.peek? = some 0x2B then c.advance else c) = c₁ at h sign
  refine sign.next ?_
  split at h
  · split at h <;> cases h
  · next digits =>
    refine (spans_digits digits).next ?_
    split at h
    · exact spans_finishFloat h
    · split at h
      · cases h
      · obtain ⟨rfl, rfl⟩ := Prod.mk.inj (Except.ok.inj h)
        exact Spans.refl _

theorem spans_readFraction {positive : Bool} {n : Nat} {exponent : Int} {c c' : Cursor} {a : Number}
    (h : readFraction positive n exponent c = .ok (a, c')) : Spans 0 c c' := by
  unfold readFraction at h
  dsimp only at h
  split at h
  · split at h <;> cases h
  · next digits =>
    refine (spans_digits digits).next ?_
    split at h
    · next letter =>
      have first := letter.elim (fun h => Neutral.spans h (by decide)) fun h =>
        Neutral.spans h (by decide)
      exact first.next (spans_readExponent h)
    · exact spans_finishFloat h

theorem spans_readNumber {positive : Bool} {c c' : Cursor} {a : Number}
    (h : readNumber positive c = .ok (a, c')) : Spans 0 c c' := by
  unfold readNumber at h
  dsimp only at h
  split at h
  · split at h <;> cases h
  · next digits =>
    refine (spans_digits digits).next ?_
    split at h
    · cases h
    · split at h
      · next point => exact (Neutral.spans point (by decide)).next (spans_readFraction h)
      · next small => exact (Neutral.spans small (by decide)).next (spans_readExponent h)
      · next capital => exact (Neutral.spans capital (by decide)).next (spans_readExponent h)
      · split at h
        · obtain ⟨rfl, rfl⟩ := Prod.mk.inj (Except.ok.inj h)
          exact Spans.refl _
        · exact spans_finishFloat h

/-! ## Between the parts of a container -/

theorem spans_nextItem {first goes : Bool} {c c' : Cursor} (h : nextItem first c = .ok (goes, c')) :
    Spans 0 c c' ∧ (goes = false → c'.peek? = some 0x5D) := by
  have gap := spans_skipGap c
  unfold nextItem at h
  dsimp only at h
  generalize c.skipGap = c₁ at h gap
  split at h
  · cases h
  · next close =>
    obtain ⟨rfl, rfl⟩ := Prod.mk.inj (Except.ok.inj h)
    exact ⟨gap, fun _ => close⟩
  · next b _ here =>
    split at h
    · obtain ⟨rfl, rfl⟩ := Prod.mk.inj (Except.ok.inj h)
      exact ⟨gap, fun no => absurd no (by decide)⟩
    · split at h
      · next comma =>
        have step := gap.next ((Neutral.spans (comma ▸ here) (by decide)).next
          (spans_skipGap c₁.advance))
        split at h
        · cases h
        · cases h
        · obtain ⟨rfl, rfl⟩ := Prod.mk.inj (Except.ok.inj h)
          exact ⟨step, fun no => absurd no (by decide)⟩
      · cases h

theorem spans_nextMember {first goes : Bool} {c c' : Cursor}
    (h : nextMember first c = .ok (goes, c')) :
    Spans 0 c c' ∧ c'.peek? = if goes then some 0x22 else some 0x7D := by
  have gap := spans_skipGap c
  unfold nextMember at h
  dsimp only at h
  generalize c.skipGap = c₁ at h gap
  split at h
  · cases h
  · next close =>
    obtain ⟨rfl, rfl⟩ := Prod.mk.inj (Except.ok.inj h)
    exact ⟨gap, close⟩
  · next b _ here =>
    split at h
    · split at h
      · next quote =>
        obtain ⟨rfl, rfl⟩ := Prod.mk.inj (Except.ok.inj h)
        exact ⟨gap, quote ▸ here⟩
      · cases h
    · split at h
      · next comma =>
        have step := gap.next ((Neutral.spans (comma ▸ here) (by decide)).next
          (spans_skipGap c₁.advance))
        split at h
        · cases h
        · next quote =>
          obtain ⟨rfl, rfl⟩ := Prod.mk.inj (Except.ok.inj h)
          exact ⟨step, quote⟩
        · cases h
        · cases h
      · cases h

theorem spans_readColon {c c' : Cursor} (h : readColon c = .ok c') : Spans 0 c c' := by
  have gap := spans_skipGap c
  unfold readColon at h
  dsimp only at h
  generalize c.skipGap = c₁ at h gap
  split at h
  · cases h
  · next colon =>
    obtain rfl := Except.ok.inj h
    exact gap.next (Neutral.spans colon (by decide))
  · cases h

/-! ## Values -/

/-- The reader leaves as many containers open as it finds. -/
def Even (f : Cursor → Step α) : Prop := ∀ c a c', f c = .ok (a, c') → Spans 0 c c'

theorem readItems_cons (item : Cursor → Step α) (b : UInt8) (bound : List UInt8) (first : Bool)
    (c : Cursor) : readItems item (b :: bound) first c =
      (nextItem first c).bind fun (goes, c) =>
        if goes then (item c).bind fun (a, c) =>
          (readItems item bound false c).map fun (as, c) => (a :: as, c)
        else .ok ([], c.advance) := by
  rw [readItems]
  rcases nextItem first c with e | ⟨goes, c⟩
  · rfl
  cases goes with
  | false => rfl
  | true =>
    simp only [Except.bind, if_true]
    rcases item c with e | ⟨a, c⟩
    · rfl
    · dsimp only
      rcases readItems item bound false c with e | ⟨as, c⟩ <;> rfl

theorem readMember_eq (value : Cursor → Step α) (c : Cursor) : readMember value c =
      (readString c.advance).bind fun (name, c) => (readColon c).bind fun c =>
        (value c).map fun (a, c) => ((name, a), c) := by
  unfold readMember
  rcases readString c.advance with e | ⟨name, c⟩
  · rfl
  dsimp only [Except.bind]
  rcases readColon c with e | c
  · rfl
  · dsimp only
    rcases value c with e | ⟨a, c⟩ <;> rfl

theorem readMembers_cons (value : Cursor → Step α) (b : UInt8) (bound : List UInt8) (first : Bool)
    (c : Cursor) : readMembers value (b :: bound) first c =
      (nextMember first c).bind fun (goes, c) =>
        if goes then (readMember value c).bind fun (m, c) =>
          (readMembers value bound false c).map fun (ms, c) => (m :: ms, c)
        else .ok ([], c.advance) := by
  rw [readMembers]
  rcases nextMember first c with e | ⟨goes, c⟩
  · rfl
  cases goes with
  | false => rfl
  | true =>
    simp only [Except.bind, if_true]
    rcases readMember value c with e | ⟨m, c⟩
    · rfl
    · dsimp only
      rcases readMembers value bound false c with e | ⟨ms, c⟩ <;> rfl

theorem spans_readItems {item : Cursor → Step α} (even : Even item) {bound : List UInt8}
    {first : Bool} {c c' : Cursor} {as : List α} (h : readItems item bound first c = .ok (as, c')) :
    Spans (-1) c c' := by
  induction bound generalizing first c as with
  | nil => cases h
  | cons _ bound ih =>
    rw [readItems_cons] at h
    obtain ⟨⟨goes, c₁⟩, next, h⟩ := bind_eq_ok h
    obtain ⟨step, close⟩ := spans_nextItem next
    cases goes with
    | false =>
      obtain ⟨rfl, rfl⟩ := Prod.mk.inj (Except.ok.inj h)
      exact step.next (spans_advance (close rfl) (by decide))
    | true =>
      obtain ⟨⟨a, c₂⟩, value, h⟩ := bind_eq_ok h
      obtain ⟨⟨others, c₃⟩, later, e⟩ := map_eq_ok h
      obtain ⟨rfl, rfl⟩ := Prod.mk.inj e
      exact step.next ((even _ _ _ value).next (ih later))

theorem spans_readMember {value : Cursor → Step α} (even : Even value) {c c' : Cursor}
    {m : String × α} (quote : c.peek? = some 0x22) (h : readMember value c = .ok (m, c')) :
    Spans 0 c c' := by
  rw [readMember_eq] at h
  obtain ⟨⟨name, c₁⟩, string, h⟩ := bind_eq_ok h
  obtain ⟨c₂, colon, h⟩ := bind_eq_ok h
  obtain ⟨⟨a, c₃⟩, taken, e⟩ := map_eq_ok h
  obtain ⟨rfl, rfl⟩ := Prod.mk.inj e
  exact ((within_string string).spans quote).next ((spans_readColon colon).next (even _ _ _ taken))

theorem spans_readMembers {value : Cursor → Step α} (even : Even value) {bound : List UInt8}
    {first : Bool} {c c' : Cursor} {ms : List (String × α)}
    (h : readMembers value bound first c = .ok (ms, c')) : Spans (-1) c c' := by
  induction bound generalizing first c ms with
  | nil => cases h
  | cons _ bound ih =>
    rw [readMembers_cons] at h
    obtain ⟨⟨goes, c₁⟩, next, h⟩ := bind_eq_ok h
    obtain ⟨step, peek⟩ := spans_nextMember next
    cases goes with
    | false =>
      obtain ⟨rfl, rfl⟩ := Prod.mk.inj (Except.ok.inj h)
      exact step.next (spans_advance peek (by decide))
    | true =>
      obtain ⟨⟨m, c₂⟩, member, h⟩ := bind_eq_ok h
      obtain ⟨⟨others, c₃⟩, later, e⟩ := map_eq_ok h
      obtain ⟨rfl, rfl⟩ := Prod.mk.inj e
      exact step.next ((spans_readMember even peek member).next (ih later))

theorem even_readValue_of {room : Nat} (inner : ∀ r, room = r + 1 → Even (readValue r)) :
    Even (readValue room) := by
  intro c j c' h
  have gap := spans_skipGap c
  rw [readValue.eq_def] at h
  dsimp only at h
  generalize c.skipGap = c₁ at h gap
  refine gap.next ?_
  split at h
  · cases h
  · next letter => exact spans_letter (by decide) letter h
  · next letter => exact spans_letter (by decide) letter h
  · next letter => exact spans_letter (by decide) letter h
  · next minus =>
    obtain ⟨⟨n, c₂⟩, number, e⟩ := map_eq_ok h
    obtain ⟨-, rfl⟩ := Prod.mk.inj e
    exact (Neutral.spans minus (by decide)).next (spans_readNumber number)
  · next quote =>
    obtain ⟨⟨s, c₂⟩, string, e⟩ := map_eq_ok h
    obtain ⟨-, rfl⟩ := Prod.mk.inj e
    exact (within_string string).spans quote
  · next bracket =>
    split at h
    · cases h
    · next r =>
      obtain ⟨⟨items, c₂⟩, inside, e⟩ := map_eq_ok h
      obtain ⟨-, rfl⟩ := Prod.mk.inj e
      exact (spans_advance bracket (by decide)).trans (spans_readItems (inner r rfl) inside)
  · next brace =>
    split at h
    · cases h
    · next r =>
      obtain ⟨⟨members, c₂⟩, inside, e⟩ := map_eq_ok h
      obtain ⟨-, rfl⟩ := Prod.mk.inj e
      exact (spans_advance brace (by decide)).trans (spans_readMembers (inner r rfl) inside)
  · split at h
    · obtain ⟨⟨n, c₂⟩, number, e⟩ := map_eq_ok h
      obtain ⟨-, rfl⟩ := Prod.mk.inj e
      exact spans_readNumber number
    · cases h

/-- **Values.** What is read as a value closes what it opens. -/
theorem even_readValue (room : Nat) : Even (readValue room) := by
  induction room with
  | zero => exact even_readValue_of fun r none => by cases none
  | succ room ih =>
    refine even_readValue_of fun r same => ?_
    obtain rfl := Nat.succ.inj same
    exact ih

/-- Behind a text that is read as a whole there are only blanks. -/
theorem finish_eq_ok {step : Step α} {a : α} (h : finish step = .ok a) :
    ∃ c, step = .ok (a, c) ∧ c.skipGap.rest = [] := by
  unfold finish at h
  split at h
  · cases h
  · next b c =>
    dsimp only at h
    split at h
    · next empty =>
      obtain rfl := Except.ok.inj h
      exact ⟨c, rfl, List.isEmpty_iff.1 empty⟩
    · cases h

theorem finish_eq_ok_iff {step : Step α} {a : α} :
    finish step = .ok a ↔ ∃ c, step = .ok (a, c) ∧ c.skipGap.rest = [] := by
  refine ⟨finish_eq_ok, ?_⟩
  rintro ⟨c, rfl, ended⟩
  rw [finish, ended]
  rfl

end HostWatch.Json

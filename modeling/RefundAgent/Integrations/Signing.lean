import RefundAgent.Foundation.Bytes
import RefundAgent.Foundation.Text

/-!
# The signed payload of a webhook

`signing.py`: the canonical payload `{timestamp}.{event_id}.{raw_body_bytes}`.  The
timestamp has a fixed width, so it can always be read back.  The event id and the
body may both contain the delimiter.
-/

namespace RefundAgent

open Foundation

/-!
## Timestamps
-/

/-- The days of a month of the Gregorian calendar. -/
def daysInMonth (year month : Nat) : Nat :=
  if month = 2 then
    if year % 4 = 0 ∧ (year % 100 ≠ 0 ∨ year % 400 = 0) then 29 else 28
  else if month = 4 ∨ month = 6 ∨ month = 9 ∨ month = 11 then 30 else 31

/-- An aware timestamp in whole seconds, as its fields in UTC. -/
@[ext] structure UtcSecond where
  year : Nat
  month : Nat
  day : Nat
  hour : Nat
  minute : Nat
  second : Nat
  yearValid : 1000 ≤ year ∧ year ≤ 9999
  dateValid : 1 ≤ month ∧ month ≤ 12 ∧ 1 ≤ day ∧ day ≤ daysInMonth year month
  timeValid : hour < 24 ∧ minute < 60 ∧ second < 60

theorem daysInMonth_le (year month : Nat) : daysInMonth year month ≤ 31 := by
  unfold daysInMonth
  split
  · split <;> omega
  · split <;> omega

/-- A number in decimal digits, padded with zeros to a width. -/
def decimal : Nat -> Nat -> List Char
  | 0, _ => []
  | width + 1, n => decimal width (n / 10) ++ [Nat.digitChar (n % 10)]

theorem length_decimal (width n : Nat) : (decimal width n).length = width := by
  induction width generalizing n with
  | zero => rfl
  | succ width ih =>
      show (decimal width (n / 10) ++ [Nat.digitChar (n % 10)]).length = width + 1
      rw [List.length_append, ih, List.length_singleton]

theorem digitChar_spec : forall a, a < 10 -> (Nat.digitChar a).val.toNat ≤ 0x7f ∧
    forall b, b < 10 -> Nat.digitChar a = Nat.digitChar b -> a = b := by
  decide

theorem decimal_ascii (width n : Nat) :
    forall c, c ∈ decimal width n -> c.val.toNat ≤ 0x7f := by
  induction width generalizing n with
  | zero =>
      intro c hc
      cases hc
  | succ width ih =>
      intro c hc
      rcases List.mem_append.mp hc with hc | hc
      · exact ih (n / 10) c hc
      · rw [List.mem_singleton.mp hc]
        exact (digitChar_spec (n % 10) (Nat.mod_lt n (by decide))).left

theorem decimal_inj {width : Nat} : forall {m n : Nat}, m < 10 ^ width -> n < 10 ^ width ->
    decimal width m = decimal width n -> m = n := by
  induction width with
  | zero =>
      intro m n hm hn _
      omega
  | succ width ih =>
      intro m n hm hn h
      rw [Nat.pow_succ] at hm hn
      rcases List.append_inj' h rfl with ⟨hinit, hlast⟩
      have hdiv := ih (Nat.div_lt_of_lt_mul (by omega)) (Nat.div_lt_of_lt_mul (by omega))
        hinit
      have hmod := (digitChar_spec (m % 10) (Nat.mod_lt m (by decide))).right (n % 10)
        (Nat.mod_lt n (by decide)) (List.cons.inj hlast).left
      omega

namespace UtcSecond

/-- The characters of `%Y-%m-%dT%H:%M:%SZ`. -/
def characters (t : UtcSecond) : List Char :=
  decimal 4 t.year ++ '-' :: (decimal 2 t.month ++ '-' :: (decimal 2 t.day ++
    'T' :: (decimal 2 t.hour ++ ':' :: (decimal 2 t.minute ++ ':' ::
      (decimal 2 t.second ++ ['Z'])))))

theorem length_characters (t : UtcSecond) : t.characters.length = 20 := by
  simp [characters, length_decimal]

theorem characters_ascii (t : UtcSecond) :
    forall c, c ∈ t.characters -> c.val.toNat ≤ 0x7f := by
  intro c hc
  simp only [characters, List.mem_append, List.mem_cons, List.not_mem_nil, or_false] at hc
  rcases hc with hc | rfl | hc | rfl | hc | rfl | hc | rfl | hc | rfl | hc | rfl
  · exact decimal_ascii _ _ c hc
  · decide
  · exact decimal_ascii _ _ c hc
  · decide
  · exact decimal_ascii _ _ c hc
  · decide
  · exact decimal_ascii _ _ c hc
  · decide
  · exact decimal_ascii _ _ c hc
  · decide
  · exact decimal_ascii _ _ c hc
  · decide

theorem decimal_cons_inj {width m n : Nat} {d : Char} {x y : List Char}
    (hm : m < 10 ^ width) (hn : n < 10 ^ width)
    (h : decimal width m ++ d :: x = decimal width n ++ d :: y) : m = n ∧ x = y := by
  have hlength : (decimal width m).length = (decimal width n).length := by
    rw [length_decimal, length_decimal]
  rcases List.append_inj h hlength with ⟨hdigits, hrest⟩
  exact ⟨decimal_inj hm hn hdigits, (List.cons.inj hrest).right⟩

theorem characters_inj {s t : UtcSecond} (h : s.characters = t.characters) : s = t := by
  have hs := daysInMonth_le s.year s.month
  have ht := daysInMonth_le t.year t.month
  rcases s.yearValid, s.dateValid, s.timeValid with ⟨hs₁, hs₂, hs₃⟩
  rcases t.yearValid, t.dateValid, t.timeValid with ⟨ht₁, ht₂, ht₃⟩
  rcases decimal_cons_inj (by omega) (by omega) h with ⟨hyear, h⟩
  rcases decimal_cons_inj (by omega) (by omega) h with ⟨hmonth, h⟩
  rcases decimal_cons_inj (by omega) (by omega) h with ⟨hday, h⟩
  rcases decimal_cons_inj (by omega) (by omega) h with ⟨hhour, h⟩
  rcases decimal_cons_inj (by omega) (by omega) h with ⟨hminute, h⟩
  rcases decimal_cons_inj (by omega) (by omega) h with ⟨hsecond, _⟩
  exact UtcSecond.ext hyear hmonth hday hhour hminute hsecond

end UtcSecond

/-- `format_timestamp`. -/
def formatTimestamp (t : UtcSecond) : String :=
  String.ofList t.characters

theorem length_encode_formatTimestamp (t : UtcSecond) :
    (encode (formatTimestamp t)).length = 20 := by
  unfold formatTimestamp
  rw [length_encode_ofList t.characters_ascii, t.length_characters]

theorem formatTimestamp_inj {s t : UtcSecond} (h : formatTimestamp s = formatTimestamp t) :
    s = t := by
  have hlist := congrArg String.toList h
  unfold formatTimestamp at hlist
  rw [String.toList_ofList, String.toList_ofList] at hlist
  exact UtcSecond.characters_inj hlist

/-!
## The payload
-/

/-- `build_canonical_payload`. -/
def buildCanonicalPayload (timestamp : UtcSecond) (eventId : String)
    (rawBody : List UInt8) : Except String (List UInt8) :=
  if Text.strip eventId = "" then
    Except.error "event_id must not be empty"
  else
    Except.ok (encode (formatTimestamp timestamp ++ "." ++ eventId ++ ".") ++ rawBody)

/-- The byte of the delimiter. -/
def dotByte : UInt8 :=
  UInt8.ofNat '.'.val.toNat

theorem buildCanonicalPayload_eq_ok {t : UtcSecond} {e : String} {b p : List UInt8}
    (h : buildCanonicalPayload t e b = Except.ok p) :
    p = encode (formatTimestamp t) ++ (dotByte :: (encode e ++ dotByte :: b)) := by
  unfold buildCanonicalPayload at h
  split at h
  · cases h
  · have hdot : encode "." = [dotByte] := by decide
    rw [← Except.ok.inj h, encode_append, encode_append, encode_append, hdot]
    simp only [List.append_assoc, List.cons_append, List.nil_append]

/-- The number of delimiters in an event id. -/
def dots (eventId : String) : Nat :=
  eventId.toList.count '.'

/--
What the payload tells.  Equal payloads have the same timestamp, and they have the
same event id and the same body exactly when the two event ids contain the same
number of dots.
-/
theorem canonical_payload_determines {t₁ t₂ : UtcSecond} {e₁ e₂ : String}
    {b₁ b₂ p : List UInt8} (h₁ : buildCanonicalPayload t₁ e₁ b₁ = Except.ok p)
    (h₂ : buildCanonicalPayload t₂ e₂ b₂ = Except.ok p) :
    t₁ = t₂ ∧ (e₁ = e₂ ∧ b₁ = b₂ ↔ dots e₁ = dots e₂) := by
  have hsame := (buildCanonicalPayload_eq_ok h₁).symm.trans (buildCanonicalPayload_eq_ok h₂)
  have hlength : (encode (formatTimestamp t₁)).length =
      (encode (formatTimestamp t₂)).length := by
    rw [length_encode_formatTimestamp, length_encode_formatTimestamp]
  rcases List.append_inj hsame hlength with ⟨htime, hrest⟩
  refine ⟨formatTimestamp_inj (encode_inj htime), ?_⟩
  constructor
  · rintro ⟨rfl, _⟩
    rfl
  · intro hdots
    have hcount : (encode e₁).count dotByte = (encode e₂).count dotByte := by
      unfold dotByte
      rw [count_encode (by decide), count_encode (by decide)]
      exact hdots
    rcases delimiter_inj (List.cons.inj hrest).right hcount with ⟨hid, hbody⟩
    exact ⟨encode_inj hid, hbody⟩

def sampleSecond : UtcSecond :=
  { year := 2026, month := 2, day := 28, hour := 23, minute := 59, second := 59
    yearValid := by decide
    dateValid := by decide
    timeValid := by decide }

theorem canonical_payload_determines_order : exists p,
    buildCanonicalPayload sampleSecond "evt-1" [123, 46, 125] = Except.ok p ∧
      forall b, buildCanonicalPayload sampleSecond "evt-1" b = Except.ok p ->
        b = [123, 46, 125] := by
  refine ⟨_, rfl, ?_⟩
  intro b hb
  have hspec := canonical_payload_determines hb
    (show buildCanonicalPayload sampleSecond "evt-1" [123, 46, 125] = Except.ok _ from rfl)
  exact (hspec.right.mpr rfl).right

/-- An event id with a dot: the body of one event is the tail of the other's id. -/
theorem canonical_payload_ambiguous :
    ¬forall (t₁ t₂ : UtcSecond) (e₁ e₂ : String) (b₁ b₂ p : List UInt8),
      buildCanonicalPayload t₁ e₁ b₁ = Except.ok p ->
      buildCanonicalPayload t₂ e₂ b₂ = Except.ok p -> t₁ = t₂ ∧ e₁ = e₂ ∧ b₁ = b₂ := by
  intro h
  have hclash := h sampleSecond sampleSecond "evt.1" "evt" [123, 125] [49, 46, 123, 125] _
    rfl (by decide)
  exact absurd hclash.right.left (by decide)

end RefundAgent

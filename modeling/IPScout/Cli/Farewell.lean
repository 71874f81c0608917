import IPScout.Base.Pattern
import IPScout.Base.Utf8

/-!
# The farewell of a command

A shell hands a command the two characters `\r` where a protocol line needs the carriage return.
`_farewell_bytes` of `cli.py` replaces the escapes of a farewell and sends the rest as it is.

What a farewell stands for is `Escaped`: the four escapes stand for their characters, and every
character but the backslash for itself.  A text that stands for nothing is refused, but for one
kind: a backslash with nothing after it matches no escape, so it is sent
(`sub_unescape_eq_ok_iff`).
-/

namespace IPScout

open Base

/-- A `click.BadParameter`: its message, and the option it is about. -/
structure BadParameter where
  message : Text
  paramHint : Text
  deriving DecidableEq

/-- What `--farewell` may spell with a backslash. -/
def FAREWELL_ESCAPES : List (Text × Text) :=
  [(['r'], ['\r']), (['n'], ['\n']), (['t'], ['\t']), (['\\'], ['\\'])]

/-- `\\(.)`, where the dot is any character. -/
def escapePattern : Pattern := [.skip (literal ['\\']), .group [.one fun _ => true]]

def unescape (groups : List Text) : Except BadParameter Text :=
  match FAREWELL_ESCAPES.lookup (groups.getD 0 []) with
  | some meant => .ok meant
  | none => .error ⟨"unknown escape \\".toList ++ groups.getD 0 [] ++
      "; use \\r, \\n, \\t or \\\\".toList, "--farewell".toList⟩

def farewellBytes : Option Text → Except BadParameter (Option Octets)
  | none => .ok none
  | some text => do
    let decoded ← sub escapePattern unescape text
    match encodeAscii decoded with
    | some b => .ok (some b)
    | none => .error ⟨"must be ASCII text, since it is sent as-is on the wire".toList,
        "--farewell".toList⟩

/-! ### What a farewell stands for -/

/-- The documented escapes: the character after the backslash, and what the two stand for. -/
inductive Escape : Char → Char → Prop
  | carriageReturn : Escape 'r' '\r'
  | lineFeed : Escape 'n' '\n'
  | tab : Escape 't' '\t'
  | backslash : Escape '\\' '\\'

/-- A text in which every backslash, from left to right, starts an escape, and what the text
stands for. -/
inductive Escaped : Text → Text → Prop
  | nil : Escaped [] []
  | plain {c : Char} {t v : Text} : c ≠ '\\' → Escaped t v → Escaped (c :: t) (c :: v)
  | escape {e d : Char} {t v : Text} : Escape e d → Escaped t v →
      Escaped ('\\' :: e :: t) (d :: v)

/-- A text of escapes, and one backslash more. -/
def EndsInLoneBackslash (t : Text) : Prop := ∃ s v, Escaped s v ∧ t = s ++ ['\\']

/-- A text is sent as what it stands for, and refused when it stands for nothing. -/
def DecodesEscapes (t : Text) : Prop :=
  ∀ b, farewellBytes (some t) = .ok (some b) ↔ ∃ v, Escaped t v ∧ encodeAscii v = some b

theorem Escaped.tail_of_plain {c : Char} (hc : c ≠ '\\') {t v : Text}
    (h : Escaped (c :: t) v) : ∃ w, Escaped t w ∧ v = c :: w := by
  cases h with
  | plain _ h => exact ⟨_, h, rfl⟩
  | escape _ _ => exact absurd rfl hc

theorem Escaped.tail_of_escape {e : Char} {t v : Text} (h : Escaped ('\\' :: e :: t) v) :
    ∃ d w, Escape e d ∧ Escaped t w ∧ v = d :: w := by
  cases h with
  | plain hc _ => exact absurd rfl hc
  | escape he h => exact ⟨_, _, he, h, rfl⟩

theorem Escaped.exists_of_append {s v : Text} (h : Escaped s v) {t w : Text}
    (ht : Escaped (s ++ t) w) : ∃ u, Escaped t u := by
  induction h generalizing w with
  | nil => exact ⟨w, ht⟩
  | plain hc _ ih =>
    obtain ⟨w', ht, -⟩ := Escaped.tail_of_plain hc ht
    exact ih ht
  | escape _ _ ih =>
    obtain ⟨d, w', -, ht, -⟩ := Escaped.tail_of_escape ht
    exact ih ht

theorem not_escaped_backslash {v : Text} : ¬ Escaped ['\\'] v := by
  intro h
  cases h with
  | plain hc _ => exact hc rfl

theorem EndsInLoneBackslash.not_escaped {t v : Text} (h : EndsInLoneBackslash t) :
    ¬ Escaped t v := by
  obtain ⟨s, w, hs, rfl⟩ := h
  intro ht
  obtain ⟨u, hu⟩ := hs.exists_of_append ht
  exact not_escaped_backslash hu

theorem Escape.ascii {e d : Char} (h : Escape e d) : d.toNat < 0x80 := by
  cases h <;> decide

theorem Escaped.ascii {t v : Text} (h : Escaped t v) (ht : ∀ c ∈ t, c.toNat < 0x80) :
    ∀ c ∈ v, c.toNat < 0x80 := by
  induction h with
  | nil => exact ht
  | plain _ _ ih =>
    rw [List.forall_mem_cons] at ht ⊢
    exact ⟨ht.1, ih ht.2⟩
  | escape he _ ih =>
    rw [List.forall_mem_cons, List.forall_mem_cons] at ht
    rw [List.forall_mem_cons]
    exact ⟨he.ascii, ih ht.2.2⟩

/-! ### What is replaced -/

theorem consuming_escapePattern : Consuming escapePattern :=
  consuming_of_literal '\\' [] [] [.group [.one fun _ => true]]

theorem unescape_of_escape {e d : Char} (h : Escape e d) : unescape [[e]] = .ok [d] := by
  cases h <;> rfl

theorem escape_of_unescape {e : Char} {w : Text} (h : unescape [[e]] = .ok w) :
    ∃ d, Escape e d ∧ w = [d] := by
  have hlookup : ∀ {c d : Char} {l : List (Text × Text)},
      ((([c], [d]) :: l).lookup [e] : Option Text) = if e = c then some [d] else l.lookup [e] := by
    intro c d l
    rw [List.lookup_cons]
    by_cases he : e = c
    · simp [he]
    · rw [if_neg he, beq_false_of_ne (a := [e]) (by simpa using he)]
  rw [unescape, List.getD_cons_zero, FAREWELL_ESCAPES, hlookup, hlookup, hlookup, hlookup] at h
  by_cases hr : e = 'r'
  · rw [if_pos hr] at h
    exact ⟨_, hr ▸ .carriageReturn, (Except.ok.inj h).symm⟩
  by_cases hn : e = 'n'
  · rw [if_neg hr, if_pos hn] at h
    exact ⟨_, hn ▸ .lineFeed, (Except.ok.inj h).symm⟩
  by_cases ht : e = 't'
  · rw [if_neg hr, if_neg hn, if_pos ht] at h
    exact ⟨_, ht ▸ .tab, (Except.ok.inj h).symm⟩
  by_cases hb : e = '\\'
  · rw [if_neg hr, if_neg hn, if_neg ht, if_pos hb] at h
    exact ⟨_, hb ▸ .backslash, (Except.ok.inj h).symm⟩
  · rw [if_neg hr, if_neg hn, if_neg ht, if_neg hb] at h
    simp at h

theorem sub_unescape_plain {c : Char} (hc : c ≠ '\\') (t : Text) :
    sub escapePattern unescape (c :: t) = (sub escapePattern unescape t).map (c :: ·) := by
  apply sub_cons_of_none
  rw [escapePattern, matchAt, literal, List.map_singleton, matchAtoms, Atom.splits,
    if_neg (by simpa using hc)]
  rfl

theorem sub_unescape_pair (e : Char) (t : Text) :
    sub escapePattern unescape ('\\' :: e :: t) =
      (unescape [[e]]).bind fun front => (sub escapePattern unescape t).map (front ++ ·) :=
  consuming_escapePattern.sub_of_head? (t := '\\' :: e :: t) (m := ([[e]], t)) rfl unescape

theorem sub_unescape_lone : sub escapePattern unescape ['\\'] = .ok ['\\'] := by
  rw [sub_cons_of_none rfl, sub]
  rfl

/-- **The escapes before anything are replaced**: by induction on what they stand for. -/
theorem sub_unescape_append {s v : Text} (h : Escaped s v) (t : Text) :
    sub escapePattern unescape (s ++ t) = (sub escapePattern unescape t).map (v ++ ·) := by
  induction h with
  | nil =>
    rw [List.nil_append]
    cases sub escapePattern unescape t <;> rfl
  | plain hc _ ih =>
    rw [List.cons_append, sub_unescape_plain hc, ih]
    cases sub escapePattern unescape t <;> rfl
  | escape he _ ih =>
    rw [List.cons_append, List.cons_append, sub_unescape_pair, unescape_of_escape he, ih]
    cases sub escapePattern unescape t <;> rfl

theorem sub_unescape_of_escaped {t v : Text} (h : Escaped t v) :
    sub escapePattern unescape t = .ok v := by
  have happend := sub_unescape_append h []
  rw [List.append_nil, sub] at happend
  rw [happend, Except.map, List.append_nil]

/-- What stands for something, or what does with one backslash more, which stays. -/
def LetThrough (t v : Text) : Prop :=
  Escaped t v ∨ ∃ s w, Escaped s w ∧ t = s ++ ['\\'] ∧ v = w ++ ['\\']

theorem LetThrough.plain {c : Char} (hc : c ≠ '\\') {t v : Text} (h : LetThrough t v) :
    LetThrough (c :: t) (c :: v) := by
  rcases h with h | ⟨s, w, h, rfl, rfl⟩
  · exact Or.inl (.plain hc h)
  · exact Or.inr ⟨c :: s, c :: w, .plain hc h, rfl, rfl⟩

theorem LetThrough.escape {e d : Char} (he : Escape e d) {t v : Text} (h : LetThrough t v) :
    LetThrough ('\\' :: e :: t) (d :: v) := by
  rcases h with h | ⟨s, w, h, rfl, rfl⟩
  · exact Or.inl (.escape he h)
  · exact Or.inr ⟨'\\' :: e :: s, d :: w, .escape he h, rfl, rfl⟩

theorem exists_of_sub_unescape_plain {c : Char} (hc : c ≠ '\\') {t v : Text}
    (h : sub escapePattern unescape (c :: t) = .ok v) :
    ∃ w, sub escapePattern unescape t = .ok w ∧ v = c :: w := by
  rw [sub_unescape_plain hc] at h
  cases hrest : sub escapePattern unescape t with
  | error e =>
    rw [hrest] at h
    simp [Except.map] at h
  | ok w =>
    rw [hrest] at h
    exact ⟨w, rfl, (Except.ok.inj h).symm⟩

theorem exists_of_sub_unescape_pair {e : Char} {t v : Text}
    (h : sub escapePattern unescape ('\\' :: e :: t) = .ok v) :
    ∃ d w, Escape e d ∧ sub escapePattern unescape t = .ok w ∧ v = d :: w := by
  rw [sub_unescape_pair] at h
  cases hfront : unescape [[e]] with
  | error err =>
    rw [hfront] at h
    simp [Except.bind] at h
  | ok front =>
    obtain ⟨d, he, rfl⟩ := escape_of_unescape hfront
    rw [hfront] at h
    cases hrest : sub escapePattern unescape t with
    | error err =>
      rw [hrest] at h
      simp [Except.bind, Except.map] at h
    | ok w =>
      rw [hrest] at h
      exact ⟨d, w, he, rfl, (Except.ok.inj h).symm⟩

/-- **What the replacement lets through**: a text of escapes, and such a text with one backslash
more. -/
theorem sub_unescape_eq_ok_iff {t v : Text} :
    sub escapePattern unescape t = .ok v ↔ LetThrough t v := by
  constructor
  · intro h
    induction t using List.twoStepInduction generalizing v with
    | nil =>
      rw [sub] at h
      rw [← Except.ok.inj h]
      exact Or.inl .nil
    | singleton c =>
      by_cases hc : c = '\\'
      · subst hc
        rw [sub_unescape_lone] at h
        exact Or.inr ⟨[], [], .nil, rfl, (Except.ok.inj h).symm⟩
      · obtain ⟨w, hw, rfl⟩ := exists_of_sub_unescape_plain hc h
        rw [sub] at hw
        rw [← Except.ok.inj hw]
        exact Or.inl (.plain hc .nil)
    | cons_cons c e t ih ihtail =>
      by_cases hc : c = '\\'
      · subst hc
        obtain ⟨d, w, he, hw, rfl⟩ := exists_of_sub_unescape_pair h
        exact (ih hw).escape he
      · obtain ⟨w, hw, rfl⟩ := exists_of_sub_unescape_plain hc h
        exact (ihtail e hw).plain hc
  · rintro (h | ⟨s, w, h, rfl, rfl⟩)
    · exact sub_unescape_of_escaped h
    · rw [sub_unescape_append h, sub_unescape_lone]
      rfl

theorem farewellBytes_eq_ok_iff {t : Text} {b : Octets} :
    farewellBytes (some t) = .ok (some b) ↔ ∃ v, LetThrough t v ∧ encodeAscii v = some b := by
  rw [farewellBytes]
  cases hsub : sub escapePattern unescape t with
  | error e =>
    refine iff_of_false (by simp [bind, Except.bind]) ?_
    rintro ⟨v, hv, -⟩
    rw [← sub_unescape_eq_ok_iff, hsub] at hv
    simp at hv
  | ok v =>
    show (match encodeAscii v with
      | some b => Except.ok (some b)
      | none => .error _) = _ ↔ _
    have hthrough : ∀ w, LetThrough t w ↔ w = v := by
      intro w
      rw [← sub_unescape_eq_ok_iff, hsub, Except.ok.injEq, eq_comm]
    simp only [hthrough, exists_eq_left]
    cases encodeAscii v with
    | none => simp
    | some b' => simp

/-! ### What is sent -/

theorem decodesEscapes_of_not_endsInLoneBackslash {t : Text} (h : ¬ EndsInLoneBackslash t) :
    DecodesEscapes t := by
  intro b
  rw [farewellBytes_eq_ok_iff]
  constructor
  · rintro ⟨v, hv | ⟨s, w, hs, ht, -⟩, hb⟩
    · exact ⟨v, hv, hb⟩
    · exact absurd ⟨s, w, hs, ht⟩ h
  · rintro ⟨v, hv, hb⟩
    exact ⟨v, Or.inl hv, hb⟩

theorem not_decodesEscapes_of_endsInLoneBackslash {t : Text} (ht : ∀ c ∈ t, c.toNat < 0x80)
    (h : EndsInLoneBackslash t) : ¬ DecodesEscapes t := by
  intro hdecodes
  obtain ⟨s, w, hs, hlone⟩ := h
  have hascii : ∀ c ∈ w ++ ['\\'], c.toNat < 0x80 := by
    intro c hc
    rw [hlone] at ht
    rcases List.mem_append.mp hc with hc | hc
    · exact hs.ascii (fun c hc => ht c (List.mem_append_left _ hc)) c hc
    · rw [List.mem_singleton.mp hc]
      decide
  have hsent := farewellBytes_eq_ok_iff.mpr
    ⟨w ++ ['\\'], Or.inr ⟨s, w, hs, hlone, rfl⟩, encodeAscii_of_forall hascii⟩
  obtain ⟨v, hv, -⟩ := (hdecodes _).mp hsent
  exact EndsInLoneBackslash.not_escaped ⟨s, w, hs, hlone⟩ hv

def writtenOctet (x : UInt8) : Text :=
  if x = 0x5c then ['\\', '\\'] else if x = 0x0d then ['\\', 'r']
  else if x = 0x0a then ['\\', 'n'] else if x = 0x09 then ['\\', 't']
  else [Char.ofNat x.toNat]

/-- Octets with their backslashes, line ends and tabs as escapes. -/
def escapedText (b : Octets) : Text := b.flatMap writtenOctet

theorem escaped_escapedText {b : Octets} (h : ∀ x ∈ b, x.toNat < 0x80) :
    Escaped (escapedText b) (b.map fun x => Char.ofNat x.toNat) := by
  induction b with
  | nil => exact .nil
  | cons x b ih =>
    rw [List.forall_mem_cons] at h
    have hrest := ih h.2
    rw [escapedText, List.flatMap_cons, ← escapedText, List.map_cons, writtenOctet]
    by_cases hb : x = 0x5c
    · rw [if_pos hb, hb]
      exact .escape .backslash hrest
    by_cases hr : x = 0x0d
    · rw [if_neg hb, if_pos hr, hr]
      exact .escape .carriageReturn hrest
    by_cases hn : x = 0x0a
    · rw [if_neg hb, if_neg hr, if_pos hn, hn]
      exact .escape .lineFeed hrest
    by_cases ht : x = 0x09
    · rw [if_neg hb, if_neg hr, if_neg hn, if_pos ht, ht]
      exact .escape .tab hrest
    · rw [if_neg hb, if_neg hr, if_neg hn, if_neg ht]
      refine .plain ?_ hrest
      intro hsame
      have hnumber : (Char.ofNat x.toNat).toNat = x.toNat :=
        Utf8State.toNat_ofNat (Or.inl (by omega))
      rw [hsame] at hnumber
      exact hb (UInt8.toNat_inj.mp hnumber.symm)

/-- **A farewell is sent as what it stands for exactly when it does not end in a lone
backslash**, and octets of ASCII are what their escaped text is sent as. -/
theorem farewellBytes_decodes_iff (t : Text) (ht : ∀ c ∈ t, c.toNat < 0x80) :
    (DecodesEscapes t ↔ ¬ EndsInLoneBackslash t) ∧
      ∀ b : Octets, (∀ x ∈ b, x.toNat < 0x80) →
        farewellBytes (some (escapedText b)) = .ok (some b) := by
  refine ⟨⟨?_, decodesEscapes_of_not_endsInLoneBackslash⟩, ?_⟩
  · intro hdecodes hlone
    exact not_decodesEscapes_of_endsInLoneBackslash ht hlone hdecodes
  · intro b hb
    exact farewellBytes_eq_ok_iff.mpr
      ⟨_, Or.inl (escaped_escapedText hb), encodeAscii_map_ofNat hb⟩

/-- The farewell of the tests. -/
theorem farewellBytes_decodes_iff_of_quit :
    DecodesEscapes "QUIT\\r\\n".toList ↔ ¬ EndsInLoneBackslash "QUIT\\r\\n".toList :=
  (farewellBytes_decodes_iff "QUIT\\r\\n".toList (by simp)).1

/-- `QUIT` and a backslash are sent as they are. -/
theorem farewellBytes_of_lone_backslash :
    farewellBytes (some "QUIT\\".toList) = .ok (some [0x51, 0x55, 0x49, 0x54, 0x5c]) ∧
      ¬ DecodesEscapes "QUIT\\".toList := by
  have hquit : Escaped "QUIT".toList "QUIT".toList :=
    .plain (by decide) (.plain (by decide) (.plain (by decide) (.plain (by decide) .nil)))
  refine ⟨farewellBytes_eq_ok_iff.mpr ⟨"QUIT\\".toList, Or.inr ⟨_, _, hquit, rfl, rfl⟩, rfl⟩, ?_⟩
  exact not_decodesEscapes_of_endsInLoneBackslash (by simp) ⟨_, _, hquit, rfl⟩

end IPScout

import BenchCompare.Proofs.Text.Parts
import BenchCompare.Shortcut.Chord

/-!
# How a chord is written

A chord is written as names of modifiers and one character, with plus signs between them.

* `Chord.Modifier`, `Chord.Names part m`: the modifiers that a chord has, and the parts that name one.
* `Chord.HasParts chord mods key`: cut at plus signs, a text has the modifiers `mods` and then the character `key`.
* `Chord.Spells mods key c`: the chord that modifiers and a character mean (`spells_ofChar`, `Spells.unique`).
* `Chord.Written chord c`: the grammar, a plus sign alone or parts. `Chord.Refused l reason`: why a text is no chord.
* `Written.parse`, `Refused.parse`: what is read in each case. `exists_written_or_refused`: one of them applies.
  `written_of_parse`: the other way round.

Main statement: `parse_iff_written`.
-/

namespace BenchCompare.Chord

/-! ### Names of modifiers -/

inductive Modifier where
  | ctrl | alt | shift
deriving DecidableEq

namespace Modifier

def names : Modifier → List String
  | ctrl => ["ctrl", "control", "cmd", "meta"]
  | alt => ["alt", "option"]
  | shift => ["shift"]

/-- The modifiers with this one held down too. -/
def hold (held : Modifiers) : Modifier → Modifiers
  | ctrl => { held with ctrl := true }
  | alt => { held with alt := true }
  | shift => { held with shift := true }

theorem eq_of_mem_names {name : String} {m m' : Modifier} (h : name ∈ m.names) (h' : name ∈ m'.names) : m = m' := by
  have hnames : ∀ name' ∈ m.names, name' ∈ m'.names → m = m' := by
    cases m <;> cases m' <;> decide
  exact hnames name h h'

end Modifier

/-- The part names the modifier, letter case and blank space at its ends aside. -/
def Names (part : List Char) (m : Modifier) : Prop := Text.lower (Text.trim (String.ofList part)) ∈ m.names

instance (part : List Char) (m : Modifier) : Decidable (Names part m) := inferInstanceAs (Decidable (_ ∈ _))

theorem Names.unique {part : List Char} {m m' : Modifier} (h : Names part m) (h' : Names part m') : m = m' :=
  Modifier.eq_of_mem_names h h'

theorem hold?_eq (held : Modifiers) (part : List Char) : hold? held (String.ofList part) =
    if Names part .ctrl then some (Modifier.ctrl.hold held)
    else if Names part .alt then some (Modifier.alt.hold held)
    else if Names part .shift then some (Modifier.shift.hold held)
    else none := by
  simp only [hold?, Names, Modifier.names, Modifier.hold, List.mem_singleton]

theorem hold?_of_names {part : List Char} {m : Modifier} (h : Names part m) (held : Modifiers) :
    hold? held (String.ofList part) = some (m.hold held) := by
  have hother (m' : Modifier) (hne : m ≠ m') : ¬ Names part m' := fun h' => hne (h.unique h')
  rw [hold?_eq]
  cases m with
  | ctrl => rw [if_pos h]
  | alt => rw [if_neg (hother .ctrl (by decide)), if_pos h]
  | shift => rw [if_neg (hother .ctrl (by decide)), if_neg (hother .alt (by decide)), if_pos h]

theorem hold?_of_not_names {part : List Char} (h : ∀ m, ¬ Names part m) (held : Modifiers) :
    hold? held (String.ofList part) = none := by
  rw [hold?_eq, if_neg (h .ctrl), if_neg (h .alt), if_neg (h .shift)]

/-! ### Parts of a chord -/

def IsModifier (part : List Char) : Prop := ∃ m, Names part m

/-- The modifiers with all those held down that the parts name. -/
def holdAll (held : Modifiers) (mods : List (List Char)) : Modifiers :=
  { held with
    ctrl := held.ctrl || mods.any (fun part => Names part .ctrl)
    alt := held.alt || mods.any (fun part => Names part .alt)
    shift := held.shift || mods.any (fun part => Names part .shift) }

theorem holdAll_cons {part : List Char} {m : Modifier} (h : Names part m) (held : Modifiers)
    (mods : List (List Char)) : holdAll (m.hold held) mods = holdAll held (part :: mods) := by
  have hnames (m' : Modifier) : decide (Names part m') = decide (m = m') :=
    decide_eq_decide.2 ⟨h.unique, fun heq => heq ▸ h⟩
  cases m <;> simp [holdAll, Modifier.hold, hnames]

theorem ofParts_cons_of_names {part : List Char} {m : Modifier} (hm : Names part m) {rest : List (List Char)}
    (h : rest ≠ []) (held : Modifiers) : ofParts held (part :: rest) = ofParts (m.hold held) rest := by
  obtain ⟨next, rest, rfl⟩ := List.exists_cons_of_ne_nil h
  simp only [ofParts, hold?_of_names hm]

theorem ofParts_cons_of_not_names {part : List Char} (hm : ∀ m, ¬ Names part m) {rest : List (List Char)}
    (h : rest ≠ []) (held : Modifiers) : ofParts held (part :: rest) = .error .unknownModifier := by
  obtain ⟨next, rest, rfl⟩ := List.exists_cons_of_ne_nil h
  simp only [ofParts, hold?_of_not_names hm]

theorem ofParts_of_modifiers {mods : List (List Char)} (h : ∀ part ∈ mods, IsModifier part) (held : Modifiers)
    (last : List Char) : ofParts held (mods ++ [last]) = ofParts (holdAll held mods) [last] := by
  induction mods generalizing held with
  | nil => simp [holdAll]
  | cons part mods ih =>
    obtain ⟨m, hm⟩ := h part List.mem_cons_self
    have hrest := ih (fun part' hpart' => h part' (List.mem_cons_of_mem part hpart')) (m.hold held)
    rw [List.cons_append, ofParts_cons_of_names hm (List.concat_ne_nil last mods), hrest, holdAll_cons hm]

/-- The first part that names no modifier ends the reading, whatever the last part is. -/
theorem ofParts_of_not_modifier {mods : List (List Char)} (h : ∃ part ∈ mods, ¬ IsModifier part) (held : Modifiers)
    (last : List Char) : ofParts held (mods ++ [last]) = .error .unknownModifier := by
  induction mods generalizing held with
  | nil =>
    obtain ⟨part, hpart, -⟩ := h
    cases hpart
  | cons part mods ih =>
    rw [List.cons_append]
    by_cases hpart : IsModifier part
    · obtain ⟨m, hm⟩ := hpart
      obtain ⟨part', hmem, hnot⟩ := h
      rcases List.mem_cons.1 hmem with rfl | hmem
      · exact absurd ⟨m, hm⟩ hnot
      · rw [ofParts_cons_of_names hm (List.concat_ne_nil last mods)]
        exact ih ⟨part', hmem, hnot⟩ (m.hold held)
    · exact ofParts_cons_of_not_names (fun m hm => hpart ⟨m, hm⟩) (List.concat_ne_nil last mods) held

theorem ofParts_singleton_of_eq {last : List Char} {key : Char} (h : Text.trimChars last = [key]) (held : Modifiers) :
    ofParts held [last] = .ok (ofChar key held) := by
  rw [ofParts, h]

theorem ofParts_singleton_of_ne {last : List Char} (h : ∀ key, Text.trimChars last ≠ [key]) (held : Modifiers) :
    ofParts held [last] = .error .notOneCharacter := by
  rw [ofParts]
  split
  · next key heq => exact absurd heq (h key)
  · rfl

/-! ### What the parts mean -/

/-- The modifiers that the parts name, in any order and any number of times, and a character mean the chord. A letter
shows Shift by its case, and any other character is kept beside Shift. -/
structure Spells (mods : List (List Char)) (key : Char) (c : Chord) : Prop where
  ctrl : c.ctrl = true ↔ ∃ part ∈ mods, Names part .ctrl
  alt : c.alt = true ↔ ∃ part ∈ mods, Names part .alt
  capital : isLetter key = true → (∃ part ∈ mods, Names part .shift) → c.key = key.toUpper ∧ c.shift = false
  small : isLetter key = true → (¬ ∃ part ∈ mods, Names part .shift) → c.key = key.toLower ∧ c.shift = false
  other : isLetter key = false → c.key = key ∧ (c.shift = true ↔ ∃ part ∈ mods, Names part .shift)

theorem spells_ofChar (mods : List (List Char)) (key : Char) : Spells mods key (ofChar key (holdAll {} mods)) := by
  have hctrl : (holdAll {} mods).ctrl = true ↔ ∃ part ∈ mods, Names part .ctrl := by simp [holdAll]
  have halt : (holdAll {} mods).alt = true ↔ ∃ part ∈ mods, Names part .alt := by simp [holdAll]
  have hshift : (holdAll {} mods).shift = true ↔ ∃ part ∈ mods, Names part .shift := by simp [holdAll]
  unfold ofChar
  split
  · next h =>
    obtain ⟨hletter, hheld⟩ := Bool.and_eq_true_iff.1 h
    refine ⟨hctrl, halt, fun _ _ => ⟨rfl, rfl⟩, fun _ hno => absurd (hshift.1 hheld) hno, fun hother => ?_⟩
    rw [hletter] at hother
    cases hother
  split
  · next h hletter =>
    have hheld : ¬ (holdAll {} mods).shift = true := fun hheld => h (Bool.and_eq_true_iff.2 ⟨hletter, hheld⟩)
    refine ⟨hctrl, halt, fun _ hnamed => absurd (hshift.2 hnamed) hheld, fun _ _ => ⟨rfl, rfl⟩, fun hother => ?_⟩
    rw [hletter] at hother
    cases hother
  · next hletter =>
    exact ⟨hctrl, halt, fun h => absurd h hletter, fun h => absurd h hletter, fun _ => ⟨rfl, hshift⟩⟩

theorem Spells.unique {mods : List (List Char)} {key : Char} {c c' : Chord} (h : Spells mods key c)
    (h' : Spells mods key c') : c = c' := by
  have hctrl : c.ctrl = c'.ctrl := Bool.eq_iff_iff.2 (h.ctrl.trans h'.ctrl.symm)
  have halt : c.alt = c'.alt := Bool.eq_iff_iff.2 (h.alt.trans h'.alt.symm)
  have hkey : c.key = c'.key ∧ c.shift = c'.shift := by
    cases hletter : isLetter key with
    | true =>
      by_cases hshift : ∃ part ∈ mods, Names part .shift
      · have hc := h.capital hletter hshift
        have hc' := h'.capital hletter hshift
        exact ⟨hc.1.trans hc'.1.symm, hc.2.trans hc'.2.symm⟩
      · have hc := h.small hletter hshift
        have hc' := h'.small hletter hshift
        exact ⟨hc.1.trans hc'.1.symm, hc.2.trans hc'.2.symm⟩
    | false =>
      have hc := h.other hletter
      have hc' := h'.other hletter
      exact ⟨hc.1.trans hc'.1.symm, Bool.eq_iff_iff.2 (hc.2.trans hc'.2.symm)⟩
  obtain ⟨key, ctrl, alt, shift⟩ := c
  obtain ⟨key', ctrl', alt', shift'⟩ := c'
  obtain rfl : ctrl = ctrl' := hctrl
  obtain rfl : alt = alt' := halt
  obtain ⟨rfl, rfl⟩ : key = key' ∧ shift = shift' := hkey
  rfl

/-! ### The grammar -/

/-- Cut at plus signs, the text has parts that name modifiers and then a part with the character, blank space at its
ends aside. -/
def HasParts (chord : List Char) (mods : List (List Char)) (key : Char) : Prop :=
  ∃ last, chord.splitOn '+' = mods ++ [last] ∧ (∀ part ∈ mods, IsModifier part) ∧ Text.trimChars last = [key]

/-- The texts that are chords. -/
inductive Written (chord : List Char) : Chord → Prop where
  /-- A plus sign that stands alone is a key. -/
  | plus (h : chord = ['+']) : Written chord { key := '+' }
  | parts {mods : List (List Char)} {key : Char} {c : Chord} (h : HasParts chord mods key) (hc : Spells mods key c) :
    Written chord c

/-- Why a text is no chord. The first reason that applies counts. -/
inductive Refused (l : List Char) : String → Prop where
  | empty (h : ∀ ch ∈ l, Text.isBlank ch = true) : Refused l "empty"
  | unknownModifier {mods : List (List Char)} {last : List Char} (hl : ∃ ch ∈ l, Text.isBlank ch = false)
      (hplus : Text.trimChars l ≠ ['+']) (hcut : (Text.trimChars l).splitOn '+' = mods ++ [last])
      (h : ∃ part ∈ mods, ¬ IsModifier part) : Refused l "unknown modifier"
  | notOneCharacter {mods : List (List Char)} {last : List Char} (hl : ∃ ch ∈ l, Text.isBlank ch = false)
      (hplus : Text.trimChars l ≠ ['+']) (hcut : (Text.trimChars l).splitOn '+' = mods ++ [last])
      (hmods : ∀ part ∈ mods, IsModifier part) (h : ∀ key, Text.trimChars last ≠ [key]) :
    Refused l "expected a single character key"

theorem parts_of_ne {chord : List Char} (h : chord ≠ ['+']) : parts chord = chord.splitOn '+' := by
  rw [parts, if_neg h, Text.splitParts_eq_splitOn]

/-- The plus sign that stands alone has no parts, since nothing stands before it. -/
theorem HasParts.ne_plus {chord : List Char} {mods : List (List Char)} {key : Char} (h : HasParts chord mods key) :
    chord ≠ ['+'] := by
  rintro rfl
  obtain ⟨last, hcut, hmods, -⟩ := h
  have hsplit : (['+'] : List Char).splitOn '+' = [[]] ++ [[]] := by decide
  obtain ⟨rfl, -⟩ := List.append_inj' (hcut.symm.trans hsplit) rfl
  obtain ⟨m, hm⟩ := hmods [] List.mem_cons_self
  cases m <;> revert hm <;> decide

theorem HasParts.ne_nil {chord : List Char} {mods : List (List Char)} {key : Char} (h : HasParts chord mods key) :
    chord ≠ [] := by
  rintro rfl
  obtain ⟨last, hcut, -, hlast⟩ := h
  have hsplit : ([] : List Char).splitOn '+' = [] ++ [[]] := rfl
  obtain ⟨-, hnil⟩ := List.append_inj' (hcut.symm.trans hsplit) rfl
  rw [List.singleton_inj.1 hnil] at hlast
  cases hlast

/-! ### Reading -/

section Reading

variable {raw : String}

theorem parse_of_ofParts_ok {c : Chord} (hne : Text.trimChars raw.toList ≠ [])
    (h : ofParts {} (parts (Text.trimChars raw.toList)) = .ok c) : parse raw = .ok c := by
  simp only [parse, if_neg hne, h]

theorem parse_of_ofParts_error {fault : ChordFault} (hne : Text.trimChars raw.toList ≠ [])
    (h : ofParts {} (parts (Text.trimChars raw.toList)) = .error fault) : parse raw = .error ⟨raw, fault⟩ := by
  simp only [parse, if_neg hne, h]

theorem Written.parse {c : Chord} (h : Written (Text.trimChars raw.toList) c) : Chord.parse raw = .ok c := by
  cases h with
  | plus h =>
    have hplus : Text.trimChars ['+'] = ['+'] := by decide
    refine parse_of_ofParts_ok (by simp [h]) ?_
    rw [h]
    exact ofParts_singleton_of_eq hplus {}
  | @parts mods key _ h hc =>
    refine parse_of_ofParts_ok h.ne_nil ?_
    rw [parts_of_ne h.ne_plus]
    obtain ⟨last, hcut, hmods, hlast⟩ := h
    rw [hcut, ofParts_of_modifiers hmods, ofParts_singleton_of_eq hlast, hc.unique (spells_ofChar mods key)]

theorem Refused.parse {reason : String} (h : Refused raw.toList reason) :
    ∃ fault, fault.reason = reason ∧ Chord.parse raw = .error ⟨raw, fault⟩ := by
  cases h with
  | empty h => exact ⟨.empty, rfl, if_pos (Text.trimChars_eq_nil_iff.2 h)⟩
  | @unknownModifier mods last hl hplus hcut h =>
    refine ⟨.unknownModifier, rfl, parse_of_ofParts_error (Text.trimChars_ne_nil hl) ?_⟩
    rw [parts_of_ne hplus, hcut, ofParts_of_not_modifier h]
  | @notOneCharacter mods last hl hplus hcut hmods h =>
    refine ⟨.notOneCharacter, rfl, parse_of_ofParts_error (Text.trimChars_ne_nil hl) ?_⟩
    rw [parts_of_ne hplus, hcut, ofParts_of_modifiers hmods, ofParts_singleton_of_ne h]

end Reading

/-- Every text is a chord or has a reason why it is none. -/
theorem exists_written_or_refused (l : List Char) :
    (∃ c, Written (Text.trimChars l) c) ∨ ∃ reason, Refused l reason := by
  by_cases hblank : ∀ ch ∈ l, Text.isBlank ch = true
  · exact .inr ⟨_, .empty hblank⟩
  by_cases hplus : Text.trimChars l = ['+']
  · exact .inl ⟨_, .plus hplus⟩
  have hl : ∃ ch ∈ l, Text.isBlank ch = false := by simpa using hblank
  obtain ⟨mods, last, hcut⟩ : ∃ mods last, (Text.trimChars l).splitOn '+' = mods ++ [last] :=
    ⟨_, _, (List.dropLast_concat_getLast (List.splitOn_ne_nil '+' _)).symm⟩
  by_cases hmods : ∀ part ∈ mods, IsModifier part
  · by_cases hlast : ∃ key, Text.trimChars last = [key]
    · obtain ⟨key, hkey⟩ := hlast
      exact .inl ⟨_, .parts ⟨last, hcut, hmods, hkey⟩ (spells_ofChar mods key)⟩
    · exact .inr ⟨_, .notOneCharacter hl hplus hcut hmods fun key hkey => hlast ⟨key, hkey⟩⟩
  · exact .inr ⟨_, .unknownModifier hl hplus hcut (by simpa using hmods)⟩

theorem written_of_parse {raw : String} {c : Chord} (h : parse raw = .ok c) :
    Written (Text.trimChars raw.toList) c := by
  rcases exists_written_or_refused raw.toList with ⟨c', hc'⟩ | ⟨reason, hrefused⟩
  · rwa [Except.ok.inj (h.symm.trans hc'.parse)]
  · obtain ⟨fault, -, herror⟩ := hrefused.parse
    cases h.symm.trans herror

theorem exists_written_iff (chord : List Char) :
    (∃ c, Written chord c) ↔ chord = ['+'] ∨ ∃ mods key, HasParts chord mods key := by
  constructor
  · rintro ⟨c, h | ⟨h, -⟩⟩
    · exact .inl h
    · exact .inr ⟨_, _, h⟩
  · rintro (h | ⟨mods, key, h⟩)
    · exact ⟨_, .plus h⟩
    · exact ⟨_, .parts h (spells_ofChar mods key)⟩

theorem reason_injective : Function.Injective ChordFault.reason := by
  intro fault fault' h
  cases fault <;> cases fault' <;> first | rfl | exact absurd h (by decide)

/-! ### The main statement -/

/-- **Reading a chord accepts exactly its grammar.** Without blank space at its ends, a text is a chord if it is a plus
sign, or if cutting it at plus signs gives names of modifiers and then a single character. It reads as the chord that
these mean, and as nothing else. Any other text is refused for the first reason that applies: it is blank, a part before
the last one names no modifier, or the last one is not a single character. -/
theorem parse_iff_written (raw : String) :
    let chord := Text.trimChars raw.toList
    ((∃ c, parse raw = .ok c) ↔ chord = ['+'] ∨ ∃ mods key, HasParts chord mods key) ∧
    (∀ c, parse raw = .ok c ↔ Written chord c) ∧
    ∀ e, parse raw = .error e ↔ e.raw = raw ∧ Refused raw.toList e.fault.reason := by
  intro chord
  have hok (c : Chord) : parse raw = .ok c ↔ Written chord c := by
    refine ⟨fun hparse => ?_, Written.parse⟩
    rcases exists_written_or_refused raw.toList with ⟨c', hc'⟩ | ⟨reason, hrefused⟩
    · obtain rfl := Except.ok.inj (hparse.symm.trans hc'.parse)
      exact hc'
    · obtain ⟨fault, -, herror⟩ := hrefused.parse
      cases hparse.symm.trans herror
  refine ⟨?_, hok, fun e => ⟨fun hparse => ?_, ?_⟩⟩
  · rw [← exists_written_iff]
    exact exists_congr hok
  · rcases exists_written_or_refused raw.toList with ⟨c, hc⟩ | ⟨reason, hrefused⟩
    · cases hparse.symm.trans hc.parse
    · obtain ⟨fault, rfl, herror⟩ := hrefused.parse
      obtain rfl := Except.error.inj (hparse.symm.trans herror)
      exact ⟨rfl, hrefused⟩
  · rintro ⟨hraw, hrefused⟩
    obtain ⟨fault, hreason, herror⟩ := hrefused.parse
    rw [herror, ← hraw, reason_injective hreason]

/-- Modifiers in any order, repeated, with blank space and capitals. -/
example : parse " Meta + shift+Ctrl+ k" = .ok { key := 'K', ctrl := true } := by decide +kernel

end BenchCompare.Chord

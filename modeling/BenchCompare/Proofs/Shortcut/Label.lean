import BenchCompare.Proofs.Shortcut.Grammar
import BenchCompare.Proofs.Shortcut.Mounting

/-!
# The label of a chord

* `Chord.SameKeys c c'`: the chords have the same character with the same modifiers, Shift aside. The same keystrokes
  play these (`sameKeys_iff_plays`), and no keystroke plays two others (`not_sameKeys_iff`).
* `label_eq_iff`: these are the chords with one label.
* `Chord.Legible c`: the label of the chord can be read. So it is for every chord that was read (`Written.legible`).
  `Legible.parse_label_eq`: it is read as the chord with its letter small.
* `Chord.ShiftedLetter chord`: a text names Shift before a letter. `isUpper_iff`: this is what gives a capital.
* `Bindings.route_mount_mount`: the side that a keystroke opens after both sides got their chords.

Main statements: `parse_label`, `label_identifies`.
-/

namespace BenchCompare

namespace Chord

/-! ### The keystrokes that play a chord -/

/-- The keystroke of the character while the modifiers of the chord are held. -/
def stroke (c : Chord) : Keystroke := { key := .char c.key, mods := { ctrl := c.ctrl, alt := c.alt } }

/-- The chords have the same character with the same modifiers, Shift aside. -/
structure SameKeys (c c' : Chord) : Prop where
  key : c.key = c'.key
  ctrl : c.ctrl = c'.ctrl
  alt : c.alt = c'.alt

section Plays

variable {c c' : Chord}

theorem plays_stroke (c : Chord) : c.Plays c.stroke := ⟨rfl, rfl, rfl, rfl, rfl, rfl⟩

theorem Plays.sameKeys {k : Keystroke} (h : c.Plays k) (h' : c'.Plays k) : SameKeys c c' := by
  obtain ⟨hkey, hctrl, halt, -⟩ := h
  obtain ⟨hkey', hctrl', halt', -⟩ := h'
  exact ⟨Key.char.inj (hkey.symm.trans hkey'), hctrl.symm.trans hctrl', halt.symm.trans halt'⟩

theorem SameKeys.plays_iff (h : SameKeys c c') (k : Keystroke) : c.Plays k ↔ c'.Plays k := by
  simp only [Plays, h.key, h.ctrl, h.alt]

theorem SameKeys.eq_or_shift (h : SameKeys c c') : c' = c ∨ c' = { c with shift := !c.shift } := by
  obtain ⟨key, ctrl, alt, shift⟩ := c
  obtain ⟨key', ctrl', alt', shift'⟩ := c'
  obtain rfl : key = key' := h.key
  obtain rfl : ctrl = ctrl' := h.ctrl
  obtain rfl : alt = alt' := h.alt
  cases shift <;> cases shift' <;> simp

theorem sameKeys_iff_plays : SameKeys c c' ↔ ∀ k, c.Plays k ↔ c'.Plays k :=
  ⟨SameKeys.plays_iff, fun h => (plays_stroke c).sameKeys ((h c.stroke).1 (plays_stroke c))⟩

theorem not_sameKeys_iff : ¬ SameKeys c c' ↔ ∀ k, ¬ (c.Plays k ∧ c'.Plays k) := by
  constructor
  · rintro hne k ⟨h, h'⟩
    exact hne (h.sameKeys h')
  · intro hnone hsame
    exact hnone c.stroke ⟨plays_stroke c, (hsame.plays_iff c.stroke).1 (plays_stroke c)⟩

end Plays

/-! ### Letters -/

theorem isLetter_of_isUpper {c : Char} (h : c.isUpper = true) : isLetter c = true := by
  have hcapital : 'A' ≤ c ∧ c ≤ 'Z' := of_decide_eq_true h
  simp only [isLetter, hcapital.1, hcapital.2, decide_true, Bool.and_self, Bool.or_true]

/-- Letters are among the first 128 characters, so there are few enough to look at all of them. -/
theorem isLetter_cases {c : Char} (h : isLetter c = true) :
    isLetter c.toUpper = true ∧ isLetter c.toLower = true ∧ c.toUpper.isUpper = true ∧ c.toLower.isUpper = false := by
  have hle (a b : Char) : a ≤ b ↔ a.toNat ≤ b.toNat := Iff.rfl
  have hlt : c.toNat < 128 := by
    simp only [isLetter, Bool.or_eq_true, Bool.and_eq_true, decide_eq_true_eq, hle, Char.reduceToNat] at h
    omega
  have hall : ∀ n : Fin 128, isLetter (Char.ofNat n) = true → isLetter (Char.ofNat n).toUpper = true ∧
      isLetter (Char.ofNat n).toLower = true ∧ (Char.ofNat n).toUpper.isUpper = true ∧
      (Char.ofNat n).toLower.isUpper = false := by decide +kernel
  have hc : Char.ofNat c.toNat = c := Char.ofNat_toNat c
  have hfound := hall ⟨c.toNat, hlt⟩
  rw [hc] at hfound
  exact hfound h

theorem toLower_of_isUpper_eq_false {c : Char} (h : c.isUpper = false) : c.toLower = c :=
  dif_neg (of_decide_eq_false h)

theorem isUpper_toLower (c : Char) : c.toLower.isUpper = false := by
  cases h : c.isUpper with
  | true => exact (isLetter_cases (isLetter_of_isUpper h)).2.2.2
  | false => rw [toLower_of_isUpper_eq_false h, h]

theorem isBlank_of_isLetter {c : Char} (h : isLetter c = true) : Text.isBlank c = false := by
  have hle (a b : Char) : a ≤ b ↔ a.toNat ≤ b.toNat := Iff.rfl
  simp only [isLetter, Bool.or_eq_true, Bool.and_eq_true, decide_eq_true_eq, hle, Char.reduceToNat] at h
  simp only [Text.isBlank, Bool.or_eq_false_iff, Bool.and_eq_false_iff, decide_eq_false_iff_not, beq_eq_false_iff_ne]
  omega

/-- Without Shift a letter becomes small, and any other character stays. -/
theorem ofChar_of_not_shift (c : Char) (ctrl alt : Bool) :
    ofChar c { ctrl, alt } = { key := c.toLower, ctrl, alt } := by
  unfold ofChar
  cases hletter : isLetter c with
  | true => rfl
  | false =>
    have hupper : ¬ c.isUpper = true := fun h => absurd (isLetter_of_isUpper h) (by simp [hletter])
    rw [toLower_of_isUpper_eq_false (Bool.eq_false_iff.2 hupper)]
    rfl

/-! ### Labels -/

/-- The names of modifiers that the label shows. -/
def shownMods (c : Chord) : List (List Char) :=
  (if c.ctrl then [['C', 't', 'r', 'l']] else []) ++ (if c.alt then [['A', 'l', 't']] else [])

theorem toList_label (c : Chord) : c.label.toList = c.shownMods.flatMap (· ++ ['+']) ++ [c.key] := by
  obtain ⟨key, ctrl, alt, shift⟩ := c
  cases ctrl <;> cases alt <;> simp [label, shownMods, Char.toString]

/-- What the label shows before the character tells the modifiers. -/
theorem eq_of_flatMap_shownMods {c c' : Chord}
    (h : c.shownMods.flatMap (· ++ ['+']) = c'.shownMods.flatMap (· ++ ['+'])) : c.ctrl = c'.ctrl ∧ c.alt = c'.alt := by
  revert h
  unfold shownMods
  generalize c.ctrl = ctrl, c.alt = alt, c'.ctrl = ctrl', c'.alt = alt'
  revert ctrl alt ctrl' alt'
  decide

theorem label_eq_iff {c c' : Chord} : c.label = c'.label ↔ SameKeys c c' := by
  constructor
  · intro h
    have hlist := congrArg String.toList h
    rw [toList_label, toList_label] at hlist
    obtain ⟨hmods, hkey⟩ := List.append_inj' hlist rfl
    obtain ⟨hctrl, halt⟩ := eq_of_flatMap_shownMods hmods
    exact ⟨List.singleton_inj.1 hkey, hctrl, halt⟩
  · intro h
    simp only [label, h.key, h.ctrl, h.alt]

theorem eq_of_mem_shownMods {c : Chord} {part : List Char} (h : part ∈ c.shownMods) :
    part = ['C', 't', 'r', 'l'] ∨ part = ['A', 'l', 't'] := by
  simp only [shownMods, List.mem_append, List.mem_ite_nil_right, List.mem_singleton] at h
  exact h.imp And.right And.right

theorem isModifier_of_mem_shownMods {c : Chord} {part : List Char} (h : part ∈ c.shownMods) : IsModifier part := by
  rcases eq_of_mem_shownMods h with rfl | rfl
  · exact ⟨.ctrl, by decide⟩
  · exact ⟨.alt, by decide⟩

theorem plus_notMem_of_mem_shownMods {c : Chord} {part : List Char} (h : part ∈ c.shownMods) : '+' ∉ part := by
  rcases eq_of_mem_shownMods h with rfl | rfl <;> decide

theorem isBlank_of_mem_shownMods {c : Chord} {part : List Char} (h : part ∈ c.shownMods) :
    ∀ ch ∈ part, Text.isBlank ch = false := by
  rcases eq_of_mem_shownMods h with rfl | rfl <;> simp [Text.isBlank]

theorem holdAll_shownMods (c : Chord) : holdAll {} c.shownMods = { ctrl := c.ctrl, alt := c.alt } := by
  unfold shownMods
  generalize c.ctrl = ctrl, c.alt = alt
  revert ctrl alt
  decide

theorem isBlank_of_mem_label {c : Chord} (h : Text.isBlank c.key = false) :
    ∀ ch ∈ c.label.toList, Text.isBlank ch = false := by
  intro ch hch
  rw [toList_label] at hch
  rcases List.mem_append.1 hch with hmods | hkey
  · obtain ⟨part, hpart, hch⟩ := List.mem_flatMap.1 hmods
    rcases List.mem_append.1 hch with hch | hplus
    · exact isBlank_of_mem_shownMods hpart ch hch
    · rw [List.mem_singleton.1 hplus]
      decide
  · rwa [List.mem_singleton.1 hkey]

/-! ### Reading a label -/

/-- The label of the chord can be read: its character is not blank, and nothing stands before a plus sign. -/
structure Legible (c : Chord) : Prop where
  notBlank : Text.isBlank c.key = false
  plus : c.key = '+' → c.ctrl = false ∧ c.alt = false

theorem Legible.parse_label_eq {c : Chord} (h : c.Legible) :
    parse c.label = .ok { key := c.key.toLower, ctrl := c.ctrl, alt := c.alt } := by
  by_cases hplus : c.key = '+'
  · -- a plus sign is never the last part, so it is read only where it stands alone
    obtain ⟨hctrl, halt⟩ := h.plus hplus
    rw [label, hctrl, halt, hplus]
    decide
  · have hcut : c.label.toList.splitOn '+' = c.shownMods ++ [[c.key]] := by
      rw [toList_label]
      exact Text.splitOn_flatMap_append (fun _ => plus_notMem_of_mem_shownMods) (by simpa using Ne.symm hplus)
    have hkey : Text.trimChars [c.key] = [c.key] := Text.trimChars_of_notBlank (by simpa using h.notBlank)
    have hparts : HasParts c.label.toList c.shownMods c.key :=
      ⟨[c.key], hcut, fun _ => isModifier_of_mem_shownMods, hkey⟩
    have hspells := spells_ofChar c.shownMods c.key
    rw [holdAll_shownMods, ofChar_of_not_shift] at hspells
    refine Written.parse (.parts ?_ hspells)
    rwa [Text.trimChars_of_notBlank (isBlank_of_mem_label h.notBlank)]

section Read

variable {chord : List Char} {mods : List (List Char)} {key : Char} {c : Chord}

theorem HasParts.isBlank_key (h : HasParts chord mods key) : Text.isBlank key = false := by
  obtain ⟨last, -, -, hlast⟩ := h
  exact Text.isBlank_of_trimChars hlast

theorem HasParts.key_ne_plus (h : HasParts chord mods key) : key ≠ '+' := by
  rintro rfl
  obtain ⟨last, hcut, -, hlast⟩ := h
  have hmem : '+' ∈ last := Text.trimChars_subset last (hlast ▸ List.mem_singleton_self '+')
  have hpart : last ∈ chord.splitOn '+' := hcut ▸ List.mem_append_right mods (List.mem_singleton_self last)
  exact Text.notMem_of_mem_splitOn hpart hmem

theorem HasParts.unique {mods' : List (List Char)} {key' : Char} (h : HasParts chord mods key)
    (h' : HasParts chord mods' key') : mods = mods' ∧ key = key' := by
  obtain ⟨last, hcut, -, hlast⟩ := h
  obtain ⟨last', hcut', -, hlast'⟩ := h'
  obtain ⟨hmods, heq⟩ := List.append_inj' (hcut.symm.trans hcut') rfl
  obtain rfl := List.singleton_inj.1 heq
  exact ⟨hmods, List.singleton_inj.1 (hlast.symm.trans hlast')⟩

theorem Spells.key_eq_or (h : Spells mods key c) : c.key = key ∨ isLetter c.key = true := by
  cases hletter : isLetter key with
  | false => exact .inl (h.other hletter).1
  | true =>
    right
    by_cases hshift : ∃ part ∈ mods, Names part .shift
    · rw [(h.capital hletter hshift).1]
      exact (isLetter_cases hletter).1
    · rw [(h.small hletter hshift).1]
      exact (isLetter_cases hletter).2.1

theorem Written.legible (h : Written chord c) : c.Legible := by
  cases h with
  | plus => exact ⟨by decide, fun _ => ⟨rfl, rfl⟩⟩
  | parts h hc =>
    rcases hc.key_eq_or with heq | hletter
    · exact ⟨heq ▸ h.isBlank_key, fun hplus => absurd (heq ▸ hplus) h.key_ne_plus⟩
    · exact ⟨isBlank_of_isLetter hletter, fun hplus => absurd hletter (by rw [hplus]; decide)⟩

theorem Written.shift_of_isLetter (h : Written chord c) (hletter : isLetter c.key = true) : c.shift = false := by
  cases h with
  | plus => rfl
  | @parts mods key _ h hc =>
    cases hkey : isLetter key with
    | false =>
      rw [(hc.other hkey).1, hkey] at hletter
      cases hletter
    | true =>
      by_cases hshift : ∃ part ∈ mods, Names part .shift
      · exact (hc.capital hkey hshift).2
      · exact (hc.small hkey hshift).2

/-- The text names Shift before a letter. -/
def ShiftedLetter (chord : List Char) : Prop :=
  ∃ mods key, HasParts chord mods key ∧ isLetter key = true ∧ ∃ part ∈ mods, Names part .shift

theorem Written.isUpper_iff (h : Written chord c) : c.key.isUpper = true ↔ ShiftedLetter chord := by
  cases h with
  | plus h =>
    refine iff_of_false (by decide) ?_
    rintro ⟨mods, key, hparts, -⟩
    exact hparts.ne_plus h
  | @parts mods key _ h hc =>
    constructor
    · intro hupper
      have hletter : isLetter key = true := by
        by_contra hother
        rw [(hc.other (Bool.eq_false_iff.2 hother)).1] at hupper
        exact hother (isLetter_of_isUpper hupper)
      refine ⟨mods, key, h, hletter, ?_⟩
      by_contra hshift
      rw [(hc.small hletter hshift).1, isUpper_toLower] at hupper
      cases hupper
    · rintro ⟨mods', key', h', hletter, hshift⟩
      obtain ⟨rfl, rfl⟩ := h.unique h'
      rw [(hc.capital hletter hshift).1]
      exact (isLetter_cases hletter).2.2.1

end Read

/-- **A label can be typed back, the capital of a shifted letter aside.** The label of every chord that can be read can
be read too, as the chord with its letter small. The same keystrokes play both exactly if the text did not name Shift
before a letter. If it did, the chord is one of the capital, which a letter without Shift never means, and no keystroke
plays both. -/
theorem parse_label {raw : String} {c : Chord} (h : parse raw = .ok c) :
    let chord := Text.trimChars raw.toList
    let small : Chord := { key := c.key.toLower, ctrl := c.ctrl, alt := c.alt }
    parse c.label = .ok small ∧
    ((∀ k, small.Plays k ↔ c.Plays k) ↔ ¬ ShiftedLetter chord) ∧
    (ShiftedLetter chord → ∀ k, ¬ (small.Plays k ∧ c.Plays k)) := by
  intro chord small
  have hwritten : Written chord c := written_of_parse h
  have hsame : SameKeys small c ↔ ¬ ShiftedLetter chord := by
    rw [← hwritten.isUpper_iff]
    constructor
    · intro hsame hupper
      have hlower : small.key.isUpper = false := isUpper_toLower c.key
      rw [hsame.key, hupper] at hlower
      cases hlower
    · exact fun hupper => ⟨toLower_of_isUpper_eq_false (Bool.eq_false_iff.2 hupper), rfl, rfl⟩
  refine ⟨hwritten.legible.parse_label_eq, ?_, fun hshifted => ?_⟩
  · rw [← sameKeys_iff_plays, hsame]
  · exact not_sameKeys_iff.1 fun hsmall => hsame.1 hsmall hshifted

/-- A letter under Shift and Alt. -/
theorem parse_label_altShift :
    let c : Chord := { key := 'O', alt := true }
    let small : Chord := { key := 'o', alt := true }
    parse "alt+shift+o" = .ok c ∧ ShiftedLetter (Text.trimChars "alt+shift+o".toList) ∧
      parse c.label = .ok small ∧ ∀ k, ¬ (small.Plays k ∧ c.Plays k) := by
  intro c small
  have hparse : parse "alt+shift+o" = .ok c := by decide +kernel
  have hmods : ∀ part ∈ ["alt".toList, "shift".toList], IsModifier part := by
    intro part hpart
    rcases List.mem_pair.1 hpart with rfl | rfl
    · exact ⟨.alt, by decide +kernel⟩
    · exact ⟨.shift, by decide +kernel⟩
  have hshifted : ShiftedLetter (Text.trimChars "alt+shift+o".toList) :=
    ⟨_, 'o', ⟨['o'], by decide +kernel, hmods, by decide +kernel⟩, by decide, "shift".toList, by decide +kernel,
      by decide +kernel⟩
  obtain ⟨hlabel, -, hnone⟩ := parse_label hparse
  exact ⟨hparse, hshifted, hlabel, hnone hshifted⟩

/-- The label of a letter under Shift is read as the letter without it. -/
theorem parse_label_capital :
    parse "shift+o" = .ok { key := 'O' } ∧ ({ key := 'O' } : Chord).label = "O" ∧ parse "O" = .ok { key := 'o' } ∧
      ¬ ∀ (raw : String) (c : Chord), parse raw = .ok c →
        ∃ c', parse c.label = .ok c' ∧ ∀ k, c'.Plays k ↔ c.Plays k := by
  have hparse : parse "shift+o" = .ok { key := 'O' } := by decide +kernel
  have hsmall : parse "O" = .ok { key := 'o' } := by decide +kernel
  have hlabel : ({ key := 'O' } : Chord).label = "O" := by decide +kernel
  refine ⟨hparse, hlabel, hsmall, fun hall => ?_⟩
  obtain ⟨c', hread, hplays⟩ := hall _ _ hparse
  rw [hlabel] at hread
  obtain rfl := Except.ok.inj (hsmall.symm.trans hread)
  exact absurd ((hplays (.plain 'O')).2 (by decide)) (by decide)

end Chord

/-! ### Two mounted chords -/

namespace Bindings

/-- When both sides get their chords one after the other, nothing else is mounted, and the first one that fits wins. -/
theorem route_mount_mount (b : Bindings) {side side' : Side} (hne : side ≠ side') (c c' : Chord) (k : Keystroke) :
    ((b.mount side c).mount side' c').route k .dashboard =
      if c.Plays k then some side else if c'.Plays k then some side' else none := by
  let ops : List Op := [.mount side c, .mount side' c']
  have htouched (s : Side) : ¬ Untouched ops s := by
    simp only [ops, Untouched, List.forall_mem_cons, Op.side]
    cases s <;> cases side <;> cases side' <;> simp_all
  have hstanding : standing ops = [(side, c), (side', c')] := by
    simp [ops, standing, Op.mounts, Untouched, Op.side, Ne.symm hne]
  have hmounted : ((b.mount side c).mount side' c').mounted = [(side, c), (side', c')] := by
    have hops := mounted_foldl_step ops b
    rw [hstanding, List.filter_eq_nil_iff.2 fun e _ => by simpa using htouched e.1] at hops
    exact hops
  rw [route, hmounted]
  by_cases h : c.Plays k <;> by_cases h' : c'.Plays k <;> simp [h, h']

end Bindings

namespace Chord

/-- **A label tells which keystrokes play a chord.** Of two chords that were read, the labels are equal exactly if the
same keystrokes play both, and different exactly if no keystroke does. The order in which the two are mounted, whatever
was mounted before, makes no difference exactly if the labels differ. Chords with one label differ in Shift at most,
which only a character that is no letter keeps. -/
theorem label_identifies {raw raw' : String} {c c' : Chord} (h : parse raw = .ok c) (h' : parse raw' = .ok c') :
    (c.label = c'.label ↔ ∀ k, c.Plays k ↔ c'.Plays k) ∧
    (c.label ≠ c'.label ↔ ∀ k, ¬ (c.Plays k ∧ c'.Plays k)) ∧
    (c.label ≠ c'.label ↔ ∀ (b : Bindings) k focus,
      ((b.mount .old c).mount .new c').route k focus = ((b.mount .new c').mount .old c).route k focus) ∧
    (c.label = c'.label → c = c' ∨ isLetter c.key = false ∧ c' = { c with shift := !c.shift }) := by
  have hnone : c.label ≠ c'.label ↔ ∀ k, ¬ (c.Plays k ∧ c'.Plays k) := by
    rw [Ne, label_eq_iff, not_sameKeys_iff]
  refine ⟨label_eq_iff.trans sameKeys_iff_plays, hnone, ?_, ?_⟩
  · rw [hnone]
    constructor
    · intro hdisjoint b k focus
      cases focus with
      | text => rfl
      | dashboard =>
        rw [Bindings.route_mount_mount b (by decide), Bindings.route_mount_mount b (by decide)]
        by_cases hc : c.Plays k
        · have hc' : ¬ c'.Plays k := fun hc' => hdisjoint k ⟨hc, hc'⟩
          rw [if_pos hc, if_neg hc', if_pos hc]
        · rw [if_neg hc, if_neg hc]
    · rintro hroute k ⟨hc, hc'⟩
      have heq := hroute {} k .dashboard
      rw [Bindings.route_mount_mount {} (by decide), Bindings.route_mount_mount {} (by decide), if_pos hc,
        if_pos hc'] at heq
      cases heq
  · intro hlabel
    have hsame : SameKeys c c' := label_eq_iff.1 hlabel
    rcases hsame.eq_or_shift with heq | hshift
    · exact .inl heq.symm
    · refine .inr ⟨?_, hshift⟩
      by_contra hletter
      rw [Bool.not_eq_false] at hletter
      have hplain : c.shift = false := (written_of_parse h).shift_of_isLetter hletter
      have hplain' : c'.shift = false := (written_of_parse h').shift_of_isLetter (hsame.key ▸ hletter)
      rw [hshift, hplain] at hplain'
      cases hplain'

/-- Shift does not show in the label of a question mark, and does not count. -/
theorem label_identifies_question :
    let c : Chord := { key := '?', ctrl := true, shift := true }
    let c' : Chord := { key := '?', ctrl := true }
    parse "shift+ctrl+?" = .ok c ∧ parse "Control + ?" = .ok c' ∧ c.label = c'.label ∧
      (∀ k, c.Plays k ↔ c'.Plays k) ∧ isLetter c.key = false := by
  intro c c'
  have hparse : parse "shift+ctrl+?" = .ok c := by decide +kernel
  have hparse' : parse "Control + ?" = .ok c' := by decide +kernel
  have hlabel : c.label = c'.label := by decide +kernel
  obtain ⟨hplays, -, -, hshift⟩ := label_identifies hparse hparse'
  rcases hshift hlabel with heq | ⟨hother, -⟩
  · exact absurd heq (by decide)
  · exact ⟨hparse, hparse', hlabel, hplays.1 hlabel, hother⟩

end Chord

end BenchCompare

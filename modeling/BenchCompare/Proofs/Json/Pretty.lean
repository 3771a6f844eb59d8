import BenchCompare.Proofs.Json.Numeral

/-!
# Printed values read back

* `Value.Printable v`: printing `v` loses nothing, since its numerals are JSON and its texts are Unicode.
* `skipBlank_newLine`: the indentation of a printed value is blank to the reader.
* `Reads v`: the reader finds `v` at the start of its printed bytes, whatever follows, with fuel for two steps a byte.
  `items?_read` and `fields?_read` say so of what stands inside brackets and braces.

Main statement: `read?_pretty`.
-/

namespace BenchCompare.Json

open Utf8 (encode)

/-- The value can be printed without loss. -/
inductive Value.Printable : Value → Prop where
  | null : Printable .null
  | bool (b : Bool) : Printable (.bool b)
  | num {n : Numeral} (h : n.WellFormed) : Printable (.num n)
  | text (s : String) : Printable (.text s)
  | arr {items : List Value} (h : ∀ v ∈ items, Printable v) : Printable (.arr items)
  | obj {fields : List (Option String × Value)} (names : ∀ f ∈ fields, f.1.isSome)
    (values : ∀ f ∈ fields, Printable f.2) : Printable (.obj fields)

/-! ### Blank space -/

theorem skipBlank_append {l : List UInt8} (h : ∀ b ∈ l, isBlankByte b = true) (rest : List UInt8) :
    skipBlank (l ++ rest) = skipBlank rest :=
  List.dropWhile_append_of_pos h

theorem skipBlank_cons {b : UInt8} (h : isBlankByte b = false) (rest : List UInt8) :
    skipBlank (b :: rest) = b :: rest := by
  simp [skipBlank, h]

/-- A new line and its indentation are blank. -/
theorem skipBlank_newLine (depth : Nat) (rest : List UInt8) :
    skipBlank (encode (newLine depth) ++ rest) = skipBlank rest := by
  refine skipBlank_append (fun b hb => ?_) rest
  obtain ⟨c, hc, hb⟩ := List.mem_flatMap.1 hb
  rcases List.mem_cons.1 hc with rfl | hc
  · obtain rfl := List.mem_singleton.1 hb
    rfl
  · obtain rfl := List.eq_of_mem_replicate hc
    obtain rfl := List.mem_singleton.1 hb
    rfl

/-- A reader of values passes over blank space. -/
theorem value?_congr {l l' : List UInt8} (h : skipBlank l = skipBlank l') (fuel : Nat) :
    value? fuel l = value? fuel l' := by
  rw [value?.eq_def, value?.eq_def fuel l', h]

theorem items?_congr {l l' : List UInt8} (h : skipBlank l = skipBlank l') (fuel : Nat) :
    items? fuel l = items? fuel l' := by
  cases fuel with
  | zero => simp only [items?]
  | succ fuel => simp only [items?, value?_congr h]

theorem fields?_congr {l l' : List UInt8} (h : skipBlank l = skipBlank l') (fuel : Nat) :
    fields? fuel l = fields? fuel l' := by
  rw [fields?.eq_def, fields?.eq_def fuel l', h]

/-! ### What follows a printed value -/

/-- Blank space, a comma or nothing. -/
def Follows (rest : List UInt8) : Prop := ∀ b ∈ rest.head?, isBlankByte b = true ∨ b = 0x2C

theorem Follows.ends {rest : List UInt8} (h : Follows rest) : Numeral.Ends rest := by
  intro b hb
  rcases h b hb with hb | rfl
  · simp only [isBlankByte, Bool.or_eq_true, beq_iff_eq] at hb
    rcases hb with ((rfl | rfl) | rfl) | rfl <;> decide
  · decide

/-- The reader finds the value at the start of its printed bytes. -/
def Reads (v : Value) : Prop :=
  ∀ (depth fuel : Nat) (rest : List UInt8), 2 * (encode (valueChars depth v)).length ≤ fuel + 1 → Follows rest →
    value? (fuel + 1) (encode (valueChars depth v) ++ rest) = some (v, rest)

/-! ### Inside brackets -/

/-- The rest of an array after one of its values. -/
def arrayTail (depth outer : Nat) (vs : List Value) : List UInt8 :=
  encode (itemsChars depth false vs) ++ (encode (newLine outer) ++ [0x5D])

theorem arrayTail_nil (depth outer : Nat) (rest : List UInt8) :
    arrayTail depth outer [] ++ rest = encode (newLine outer) ++ 0x5D :: rest := by
  simp only [arrayTail, itemsChars, List.append_assoc]
  rfl

theorem arrayTail_cons (depth outer : Nat) (v : Value) (vs : List Value) : arrayTail depth outer (v :: vs) =
    0x2C :: (encode (newLine depth) ++ (encode (valueChars depth v) ++ arrayTail depth outer vs)) := by
  simp only [arrayTail, itemsChars, Utf8.encode_append, List.append_assoc]
  rfl

theorem follows_arrayTail (depth outer : Nat) (vs : List Value) (rest : List UInt8) :
    Follows (arrayTail depth outer vs ++ rest) := by
  intro b hb
  cases vs with
  | nil =>
    obtain rfl := Option.some.inj hb
    exact .inl rfl
  | cons v vs =>
    obtain rfl := Option.some.inj hb
    exact .inr rfl

theorem length_arrayTail_pos (depth outer : Nat) (vs : List Value) : 0 < (arrayTail depth outer vs).length := by
  simp only [arrayTail, List.length_append, List.length_singleton]
  omega

theorem items?_value {v : Value} (hv : Reads v) {depth fuel : Nat} {rest : List UInt8}
    (hfuel : 2 * (encode (valueChars depth v)).length ≤ fuel + 1) (hrest : Follows rest) :
    items? (fuel + 2) (encode (valueChars depth v) ++ rest) =
      match skipBlank rest with
      | 0x2C :: rest => (items? (fuel + 1) rest).bind fun (vs, rest) => some (v :: vs, rest)
      | 0x5D :: rest => some ([v], rest)
      | _ => none := by
  rw [items?, hv depth fuel rest hfuel hrest]
  rfl

theorem items?_read {v : Value} (hv : Reads v) {vs : List Value} (h : ∀ w ∈ vs, Reads w) (depth outer : Nat)
    {fuel : Nat} (rest : List UInt8)
    (hfuel : 2 * (encode (valueChars depth v) ++ arrayTail depth outer vs).length ≤ fuel) :
    items? fuel (encode (valueChars depth v) ++ (arrayTail depth outer vs ++ rest)) = some (v :: vs, rest) := by
  rw [List.length_append] at hfuel
  have htail := length_arrayTail_pos depth outer vs
  obtain ⟨fuel, rfl⟩ : ∃ n, fuel = n + 2 := ⟨fuel - 2, by omega⟩
  rw [items?_value hv (by omega) (follows_arrayTail depth outer vs rest)]
  induction vs generalizing v fuel with
  | nil =>
    rw [arrayTail_nil, skipBlank_newLine, skipBlank_cons rfl]
    rfl
  | cons w ws ih =>
    have hw : Reads w := h w List.mem_cons_self
    rw [arrayTail_cons] at hfuel ⊢
    simp only [List.length_append, List.length_cons] at hfuel
    have htail := length_arrayTail_pos depth outer ws
    obtain ⟨fuel, rfl⟩ : ∃ n, fuel = n + 1 := ⟨fuel - 1, by omega⟩
    have hitems : items? (fuel + 2) (encode (newLine depth) ++ (encode (valueChars depth w) ++
        (arrayTail depth outer ws ++ rest))) = some (w :: ws, rest) := by
      rw [items?_congr (skipBlank_newLine depth _), items?_value hw (by omega) (follows_arrayTail depth outer ws rest)]
      exact ih hw (fun u hu => h u (List.mem_cons_of_mem _ hu)) htail fuel (by omega)
    rw [List.cons_append, skipBlank_cons rfl, List.append_assoc, List.append_assoc]
    simp only [hitems, Option.bind_some]

/-! ### Inside braces -/

/-- The rest of an object after one of its values. -/
def objectTail (depth outer : Nat) (fs : List (Option String × Value)) : List UInt8 :=
  encode (fieldsChars depth false fs) ++ (encode (newLine outer) ++ [0x7D])

theorem objectTail_nil (depth outer : Nat) (rest : List UInt8) :
    objectTail depth outer [] ++ rest = encode (newLine outer) ++ 0x7D :: rest := by
  simp only [objectTail, fieldsChars, List.append_assoc]
  rfl

theorem objectTail_cons (depth outer : Nat) (f : Option String × Value) (fs : List (Option String × Value)) :
    objectTail depth outer (f :: fs) =
      0x2C :: (encode (newLine depth) ++ (encode (fieldChars depth f) ++ objectTail depth outer fs)) := by
  simp only [objectTail, fieldsChars, Utf8.encode_append, List.append_assoc]
  rfl

theorem length_objectTail_pos (depth outer : Nat) (fs : List (Option String × Value)) :
    0 < (objectTail depth outer fs).length := by
  simp only [objectTail, List.length_append, List.length_singleton]
  omega

theorem follows_objectTail (depth outer : Nat) (fs : List (Option String × Value)) (rest : List UInt8) :
    Follows (objectTail depth outer fs ++ rest) := by
  intro b hb
  cases fs with
  | nil =>
    obtain rfl := Option.some.inj hb
    exact .inl rfl
  | cons f fs =>
    obtain rfl := Option.some.inj hb
    exact .inr rfl

/-- A printed name without its opening quote. -/
def nameTail (name : String) : List UInt8 := encode (name.toList.flatMap escapeChar) ++ [0x22]

theorem encode_quote (s : String) : encode (quote s) = 0x22 :: nameTail s := by
  rw [quote, List.cons_append, Utf8.encode_cons, Utf8.encode_append]
  rfl

theorem text?_nameTail (name : String) (rest : List UInt8) :
    text? (nameTail name ++ rest) = some (some name, rest) := by
  rw [nameTail, List.append_assoc]
  exact text?_quote name rest

theorem encode_fieldChars (depth : Nat) (name : String) (v : Value) : encode (fieldChars depth (some name, v)) =
    0x22 :: (nameTail name ++ 0x3A :: 0x20 :: encode (valueChars depth v)) := by
  rw [fieldChars, textChars, Utf8.encode_append, encode_quote]
  rfl

theorem fields?_field {f : Option String × Value} (hname : f.1.isSome) (hv : Reads f.2) {depth fuel : Nat}
    {rest : List UInt8} (hfuel : 2 * (encode (fieldChars depth f)).length ≤ fuel + 1) (hrest : Follows rest) :
    fields? (fuel + 2) (encode (fieldChars depth f) ++ rest) =
      match skipBlank rest with
      | 0x2C :: rest => (fields? (fuel + 1) rest).bind fun (fs, rest) => some (f :: fs, rest)
      | 0x7D :: rest => some ([f], rest)
      | _ => none := by
  obtain ⟨name, v⟩ := f
  obtain ⟨name, rfl⟩ := Option.isSome_iff_exists.1 hname
  replace hv : Reads v := hv
  rw [encode_fieldChars] at hfuel ⊢
  simp only [List.length_append, List.length_cons] at hfuel
  have hvalue : value? (fuel + 1) (0x20 :: (encode (valueChars depth v) ++ rest)) = some (v, rest) :=
    (value?_congr (skipBlank_append (List.forall_mem_singleton.2 rfl : ∀ b ∈ [0x20], isBlankByte b = true) _) _).trans
      (hv depth fuel rest (by omega) hrest)
  have hcolon (l : List UInt8) : skipBlank (0x3A :: l) = 0x3A :: l := skipBlank_cons rfl l
  rw [List.cons_append, List.append_assoc, fields?.eq_def, skipBlank_cons rfl]
  simp only [List.cons_append, text?_nameTail, Option.bind_eq_bind, Option.bind_some, hcolon]
  rw [hvalue]
  rfl

theorem fields?_read {f : Option String × Value} (hname : f.1.isSome) (hv : Reads f.2)
    {fs : List (Option String × Value)} (names : ∀ g ∈ fs, g.1.isSome) (values : ∀ g ∈ fs, Reads g.2)
    (depth outer : Nat) {fuel : Nat} (rest : List UInt8)
    (hfuel : 2 * (encode (fieldChars depth f) ++ objectTail depth outer fs).length ≤ fuel) :
    fields? fuel (encode (fieldChars depth f) ++ (objectTail depth outer fs ++ rest)) = some (f :: fs, rest) := by
  rw [List.length_append] at hfuel
  have htail := length_objectTail_pos depth outer fs
  obtain ⟨fuel, rfl⟩ : ∃ n, fuel = n + 2 := ⟨fuel - 2, by omega⟩
  rw [fields?_field hname hv (by omega) (follows_objectTail depth outer fs rest)]
  induction fs generalizing f fuel with
  | nil =>
    rw [objectTail_nil, skipBlank_newLine, skipBlank_cons rfl]
    rfl
  | cons g gs ih =>
    have hg : g.1.isSome := names g List.mem_cons_self
    have hread : Reads g.2 := values g List.mem_cons_self
    have hgs : ∀ k ∈ gs, k.1.isSome := fun k hk => names k (List.mem_cons_of_mem _ hk)
    rw [objectTail_cons] at hfuel ⊢
    simp only [List.length_append, List.length_cons] at hfuel
    have htail := length_objectTail_pos depth outer gs
    obtain ⟨fuel, rfl⟩ : ∃ n, fuel = n + 1 := ⟨fuel - 1, by omega⟩
    have hfields : fields? (fuel + 2) (encode (newLine depth) ++ (encode (fieldChars depth g) ++
        (objectTail depth outer gs ++ rest))) = some (g :: gs, rest) := by
      rw [fields?_congr (skipBlank_newLine depth _),
        fields?_field hg hread (by omega) (follows_objectTail depth outer gs rest)]
      exact ih hg hread hgs (fun k hk => values k (List.mem_cons_of_mem _ hk)) htail fuel (by omega)
    rw [List.cons_append, skipBlank_cons rfl, List.append_assoc, List.append_assoc]
    simp only [hfields, Option.bind_some]

/-! ### Any printable value -/

theorem encode_arr (depth : Nat) (v : Value) (vs : List Value) : encode (valueChars depth (.arr (v :: vs))) =
    0x5B :: (encode (newLine (depth + 1)) ++
      (encode (valueChars (depth + 1) v) ++ arrayTail (depth + 1) depth vs)) := by
  simp only [valueChars, itemsChars, arrayTail, List.cons_append, Utf8.encode_cons, Utf8.encode_append,
    List.append_assoc]
  rfl

theorem encode_obj (depth : Nat) (f : Option String × Value) (fs : List (Option String × Value)) :
    encode (valueChars depth (.obj (f :: fs))) = 0x7B :: (encode (newLine (depth + 1)) ++
      (encode (fieldChars (depth + 1) f) ++ objectTail (depth + 1) depth fs)) := by
  simp only [valueChars, fieldsChars, objectTail, List.cons_append, Utf8.encode_cons, Utf8.encode_append,
    List.append_assoc]
  rfl

/-- What no text, array, object or name of a value starts with. -/
theorem not_special_of_digit {b : UInt8} (h : b = 0x2D ∨ isDigit b = true) :
    isBlankByte b = false ∧ b ≠ 0x22 ∧ b ≠ 0x5B ∧ b ≠ 0x5D ∧ b ≠ 0x7B ∧ b ≠ 0x6E ∧ b ≠ 0x74 ∧ b ≠ 0x66 := by
  rcases h with rfl | h
  · decide
  · refine ⟨?_, ?_, ?_, ?_, ?_, ?_, ?_, ?_⟩
    · cases hb : isBlankByte b with
      | false => rfl
      | true =>
        simp only [isBlankByte, Bool.or_eq_true, beq_iff_eq] at hb
        rcases hb with ((rfl | rfl) | rfl) | rfl <;> exact absurd h (by decide)
    all_goals
      rintro rfl
      exact absurd h (by decide)

/-- The first byte of a printed value is not blank and closes no array. -/
theorem Value.Printable.exists_valueChars {v : Value} (h : v.Printable) (depth : Nat) :
    ∃ b rest, encode (valueChars depth v) = b :: rest ∧ isBlankByte b = false ∧ b ≠ 0x5D := by
  cases h with
  | null => exact ⟨_, _, rfl, rfl, by decide⟩
  | bool b => cases b <;> exact ⟨_, _, rfl, rfl, by decide⟩
  | num hn =>
    obtain ⟨b, rest, htext, hb⟩ := exists_toText hn
    obtain ⟨hblank, -, -, hclose, -⟩ := not_special_of_digit hb
    exact ⟨b, rest, by rw [valueChars, htext], hblank, hclose⟩
  | text s => exact ⟨0x22, _, encode_quote s, rfl, by decide⟩
  | @arr items _ =>
    cases items with
    | nil => exact ⟨_, _, rfl, rfl, by decide⟩
    | cons v vs => exact ⟨_, _, encode_arr depth v vs, rfl, by decide⟩
  | @obj fields _ _ =>
    cases fields with
    | nil => exact ⟨_, _, rfl, rfl, by decide⟩
    | cons f fs => exact ⟨_, _, encode_obj depth f fs, rfl, by decide⟩

theorem value?_bracket {l bs : List UInt8} {b : UInt8} (hl : skipBlank l = b :: bs) (hb : b ≠ 0x5D) (fuel : Nat) :
    value? (fuel + 1) (0x5B :: l) = (items? fuel (b :: bs)).map fun (vs, r) => (.arr vs, r) := by
  rw [value?.eq_def, skipBlank_cons rfl]
  simp only [hl, beq_iff_eq]
  rw [if_neg (by decide), if_pos trivial]
  split
  · rename_i h
    exact absurd (List.cons.inj h).1 hb
  · rfl

theorem value?_brace {l bs : List UInt8} {b : UInt8} (hl : skipBlank l = b :: bs) (hb : b ≠ 0x7D) (fuel : Nat) :
    value? (fuel + 1) (0x7B :: l) = (fields? fuel (b :: bs)).map fun (fs, r) => (.obj fs, r) := by
  rw [value?.eq_def, skipBlank_cons rfl]
  simp only [hl, beq_iff_eq]
  rw [if_neg (by decide), if_neg (by decide), if_pos trivial]
  split
  · rename_i h
    exact absurd (List.cons.inj h).1 hb
  · rfl

/-- **A printable value is read back**, whatever follows it. -/
theorem Value.Printable.reads {v : Value} (h : v.Printable) : Reads v := by
  induction h with
  | null =>
    intro depth fuel rest _ _
    rw [value?.eq_def]
    rfl
  | bool b =>
    intro depth fuel rest _ _
    rw [value?.eq_def]
    cases b <;> rfl
  | @num n hn =>
    intro depth fuel rest _ hrest
    have hread : numeral? (encode n.toText.toList ++ rest) = some (n, rest) := numeral?_toText hn hrest.ends
    obtain ⟨b, bs, htext, hb⟩ := exists_toText hn
    obtain ⟨hblank, h1, h2, -, h3, h4, h5, h6⟩ := not_special_of_digit hb
    rw [htext, List.cons_append] at hread
    rw [valueChars, htext, List.cons_append, value?.eq_def, skipBlank_cons hblank]
    simp only [beq_iff_eq, h1, h2, h3, h4, h5, h6, if_false, hread, Option.map_some]
  | text s =>
    intro depth fuel rest _ _
    rw [Value.text, valueChars, textChars, encode_quote, List.cons_append, value?.eq_def, skipBlank_cons rfl]
    simp only [beq_self_eq_true, if_true, text?_nameTail, Option.map_some]
  | @arr items hitems ih =>
    intro depth fuel rest hfuel hrest
    cases items with
    | nil =>
      rw [value?.eq_def]
      rfl
    | cons v vs =>
      have hv : v.Printable := hitems v List.mem_cons_self
      have hvs : ∀ w ∈ vs, Reads w := fun w hw => ih w (List.mem_cons_of_mem _ hw)
      obtain ⟨b, bs, htext, hblank, hclose⟩ := hv.exists_valueChars (depth + 1)
      rw [encode_arr] at hfuel ⊢
      simp only [List.length_cons, List.length_append] at hfuel
      have hread : items? fuel (encode (valueChars (depth + 1) v) ++ (arrayTail (depth + 1) depth vs ++ rest)) =
          some (v :: vs, rest) :=
        items?_read (ih v List.mem_cons_self) hvs (depth + 1) depth rest (by rw [List.length_append]; omega)
      rw [htext, List.cons_append] at hread
      rw [List.cons_append, List.append_assoc, List.append_assoc, htext, List.cons_append,
        value?_bracket ((skipBlank_newLine _ _).trans (skipBlank_cons hblank _)) hclose, hread]
      rfl
  | @obj fields names _ ih =>
    intro depth fuel rest hfuel hrest
    cases fields with
    | nil =>
      rw [value?.eq_def]
      rfl
    | cons f fs =>
      have hf : f.1.isSome := names f List.mem_cons_self
      have hfs : ∀ g ∈ fs, g.1.isSome := fun g hg => names g (List.mem_cons_of_mem _ hg)
      have hvs : ∀ g ∈ fs, Reads g.2 := fun g hg => ih g (List.mem_cons_of_mem _ hg)
      obtain ⟨bs, htext⟩ : ∃ bs, encode (fieldChars (depth + 1) f) = 0x22 :: bs := by
        obtain ⟨name, hname⟩ := Option.isSome_iff_exists.1 hf
        exact ⟨_, (congrArg (fun n => encode (fieldChars (depth + 1) (n, f.2))) hname).trans
          (encode_fieldChars (depth + 1) name f.2)⟩
      rw [encode_obj] at hfuel ⊢
      simp only [List.length_cons, List.length_append] at hfuel
      have hread : fields? fuel (encode (fieldChars (depth + 1) f) ++ (objectTail (depth + 1) depth fs ++ rest)) =
          some (f :: fs, rest) :=
        fields?_read hf (ih f List.mem_cons_self) hfs hvs (depth + 1) depth rest (by rw [List.length_append]; omega)
      rw [htext, List.cons_append] at hread
      rw [List.cons_append, List.append_assoc, List.append_assoc, htext, List.cons_append,
        value?_brace ((skipBlank_newLine _ _).trans (skipBlank_cons rfl _)) (by decide), hread]
      rfl

/-- **A printable value is read back from its printed text**, with blank space or nothing after it. -/
theorem read?_pretty {v : Value} (h : v.Printable) {blank : List UInt8}
    (hblank : ∀ b ∈ blank, isBlankByte b = true) : read? (encode (pretty v).toList ++ blank) = some v := by
  have hfollows : Follows blank := fun b hb => .inl (hblank b (List.mem_of_mem_head? hb))
  have hend : skipBlank blank = [] := by
    rw [← List.append_nil blank, skipBlank_append hblank []]
    rfl
  have hread := h.reads 0 (2 * (encode (valueChars 0 v) ++ blank).length + 1) blank
    (by rw [List.length_append]; omega) hfollows
  rw [read?, pretty, String.toList_ofList, hread]
  simp only [Option.bind_eq_bind, Option.bind_some, hend, List.isEmpty_nil, if_true]

end BenchCompare.Json

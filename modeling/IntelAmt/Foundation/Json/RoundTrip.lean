import IntelAmt.Foundation.Json.Scanning

/-!
# What is written is read back

A plain value is read back from the text that is written for it, whatever
stands behind the text, where it may nest as deep as it does; and from no
beginning of an object's text that stops short of it.
-/

namespace IntelAmt
namespace Foundation
namespace Json

/-- Text of Unicode scalar values. -/
def ScalarText (points : List Nat) : Prop :=
  forall n, n ∈ points -> n.isValidChar

mutual

/-- Without floats, with distinct keys, in Unicode scalar values, and with
integers that are converted. -/
def Plain : Json -> Prop
  | null => True
  | bool _ => True
  | int n => (Nat.toDigits 10 n.natAbs).length ≤ maxTextDigits
  | float _ => False
  | str points => ScalarText points
  | arr items => PlainItems items
  | obj members => PlainMembers members ∧ (members.map Prod.fst).Nodup

def PlainItems : List Json -> Prop
  | [] => True
  | item :: items => Plain item ∧ PlainItems items

def PlainMembers : List (List Nat × Json) -> Prop
  | [] => True
  | (k, v) :: members => ScalarText k ∧ Plain v ∧ PlainMembers members

end

mutual

/-- How many arrays and objects are inside one another. -/
def height : Json -> Nat
  | arr items => heightItems items + 1
  | obj members => heightMembers members + 1
  | _ => 0

def heightItems : List Json -> Nat
  | [] => 0
  | item :: items => max (height item) (heightItems items)

def heightMembers : List (List Nat × Json) -> Nat
  | [] => 0
  | (_, v) :: members => max (height v) (heightMembers members)

end

/-!
## Strings
-/

/-- The code units that the escapes of a point name. -/
def units (n : Nat) : List Nat :=
  if n < 65536 then [n]
  else [55296 + (n - 65536) / 1024 % 1024, 56320 + (n - 65536) % 1024]

theorem hexValue_digitChar {d : Nat} (h : d < 16) :
    hexValue d.digitChar = some d := by
  have hall : forall d, d < 16 -> hexValue d.digitChar = some d := by decide
  exact hall d h

theorem points_escapeUnit {n : Nat} (hn : n < 65536) {tail rest : List Char}
    {points : List Nat} (h : Points tail points rest) :
    Points (escapeUnit n ++ tail) (n :: points) rest := by
  refine Points.unit ?_ h
  unfold hex4
  rw [hexValue_digitChar (Nat.mod_lt _ (by decide)),
    hexValue_digitChar (Nat.mod_lt _ (by decide)),
    hexValue_digitChar (Nat.mod_lt _ (by decide)),
    hexValue_digitChar (Nat.mod_lt _ (by decide))]
  show some _ = some n
  congr 1
  lia

theorem unescape_shortEscape {n : Nat} {letter : Char}
    (h : shortEscapes.lookup n = some letter) : unescape letter = some n := by
  have hall : forall entry, entry ∈ shortEscapes ->
      unescape entry.2 = some entry.1 := by decide
  exact hall (n, letter) (mem_of_lookup h)

theorem shortEscapes_lookup_none {n : Nat}
    (h : shortEscapes.lookup n = none) : n ≠ 34 ∧ n ≠ 92 := by
  constructor
  · rintro rfl
    cases h
  · rintro rfl
    cases h

theorem toNat_ofNat_of_ascii {n : Nat} (h : n ≤ 126) :
    (Char.ofNat n).toNat = n := by
  unfold Char.ofNat
  rw [dif_pos (Or.inl (by lia))]
  rfl

theorem points_escapePoint (n : Nat) {tail rest : List Char}
    {points : List Nat} (h : Points tail points rest) :
    Points (escapePoint n ++ tail) (units n ++ points) rest := by
  unfold escapePoint
  cases hshort : shortEscapes.lookup n with
  | some letter =>
      have hsmall : n < 65536 := by
        have hall : forall entry, entry ∈ shortEscapes ->
            entry.1 < 65536 := by decide
        exact hall (n, letter) (mem_of_lookup hshort)
      have hunits : units n = [n] := if_pos hsmall
      rw [hunits]
      exact Points.letter (unescape_shortEscape hshort) h
  | none =>
      simp only
      split
      · rename_i hprint
        have hvalue := toNat_ofNat_of_ascii hprint.2
        rcases shortEscapes_lookup_none hshort with ⟨hquote, hescape⟩
        have hunits : units n = [n] := if_pos (by lia)
        rw [hunits]
        have hnotquote : Char.ofNat n ≠ '"' := by
          intro heq
          rw [heq] at hvalue
          exact hquote hvalue.symm
        have hnotescape : Char.ofNat n ≠ '\\' := by
          intro heq
          rw [heq] at hvalue
          exact hescape hvalue.symm
        have hplain := Points.plain hnotquote hnotescape
          (by rw [hvalue]; exact hprint.1) h
        rw [hvalue] at hplain
        exact hplain
      · split
        · rename_i hsmall
          have hunits : units n = [n] := if_pos hsmall
          rw [hunits]
          exact points_escapeUnit hsmall h
        · rename_i hlarge
          rw [units, if_neg hlarge, List.append_assoc]
          exact points_escapeUnit (by lia) (points_escapeUnit (by lia) h)

theorem points_escapeString (points : List Nat) (tail : List Char) :
    Points (points.flatMap escapePoint ++ ('"' :: tail))
      (points.flatMap units) tail := by
  induction points with
  | nil => exact Points.close
  | cons n points ih =>
      rw [List.flatMap_cons, List.flatMap_cons, List.append_assoc]
      exact points_escapePoint n ih

theorem joinSurrogates_cons {n : Nat} (h : isHigh n = false)
    (rest : List Nat) :
    joinSurrogates (n :: rest) = n :: joinSurrogates rest := by
  cases rest with
  | nil => rfl
  | cons low rest =>
      rw [joinSurrogates, h]
      rfl

theorem joinSurrogates_pair {k m : Nat} (hk : k < 1024) (hm : m < 1024)
    (rest : List Nat) :
    joinSurrogates ((55296 + k) :: (56320 + m) :: rest) =
      (65536 + k * 1024 + m) :: joinSurrogates rest := by
  have hhigh : isHigh (55296 + k) = true := by
    simp only [isHigh, decide_eq_true_eq]
    lia
  have hlow : isLow (56320 + m) = true := by
    simp only [isLow, decide_eq_true_eq]
    lia
  rw [joinSurrogates, hhigh, hlow, Nat.add_sub_cancel_left,
    Nat.add_sub_cancel_left]
  rfl

theorem isHigh_of_isValidChar {n : Nat} (h : n.isValidChar) :
    isHigh n = false := by
  simp only [isHigh, decide_eq_false_iff_not]
  rcases h with hlow | ⟨hhigh, _⟩
  · lia
  · lia

theorem joinSurrogates_units {n : Nat} (hn : n.isValidChar)
    (rest : List Nat) :
    joinSurrogates (units n ++ rest) = n :: joinSurrogates rest := by
  unfold units
  split
  · exact joinSurrogates_cons (isHigh_of_isValidChar hn) rest
  · rename_i hlarge
    have hmax : n < 1114112 := by
      rcases hn with hlow | ⟨_, hmax⟩
      · lia
      · exact hmax
    have hmod : (n - 65536) / 1024 % 1024 = (n - 65536) / 1024 :=
      Nat.mod_eq_of_lt (by lia)
    have hvalue : 65536 + (n - 65536) / 1024 * 1024 + (n - 65536) % 1024 =
        n := by
      lia
    rw [hmod]
    refine (joinSurrogates_pair (by lia) (Nat.mod_lt _ (by decide))
      rest).trans ?_
    rw [hvalue]

theorem joinSurrogates_flatMap {points : List Nat}
    (h : ScalarText points) :
    joinSurrogates (points.flatMap units) = points := by
  induction points with
  | nil => rfl
  | cons n points ih =>
      rw [List.flatMap_cons, joinSurrogates_units (h n (by simp)),
        ih fun m hm => h m (List.mem_cons_of_mem _ hm)]

theorem scanString_dumpsString {points : List Nat} (h : ScalarText points)
    (tail : List Char) :
    scanString (points.flatMap escapePoint ++ ('"' :: tail)) =
      some (points, tail) :=
  scanString_eq_some.mpr
    ⟨_, points_escapeString points tail, joinSurrogates_flatMap h⟩

/-!
## Integers
-/

/-- Nothing behind a number goes on with it. -/
def Stops (tail : List Char) : Prop :=
  forall c, tail.head? = some c -> endsNumber c = true

theorem Stops.not_digit {tail : List Char} (h : Stops tail) {c : Char}
    (hc : tail.head? = some c) :
    c.isDigit = false ∧ c ≠ '.' ∧ c ≠ 'e' ∧ c ≠ 'E' := by
  have hends := h c hc
  unfold endsNumber at hends
  simp only [Bool.not_eq_true', Bool.or_eq_false_iff,
    decide_eq_false_iff_not] at hends
  exact ⟨hends.1.1.1, hends.1.1.2, hends.1.2, hends.2⟩

theorem digits_stop {digits tail : List Char}
    (hdigits : forall c, c ∈ digits -> c.isDigit = true)
    (htail : Stops tail) :
    (digits ++ tail).takeWhile Char.isDigit = digits ∧
      (digits ++ tail).dropWhile Char.isDigit = tail := by
  rw [List.takeWhile_append_of_pos hdigits,
    List.dropWhile_append_of_pos hdigits]
  cases tail with
  | nil => simp
  | cons c tail =>
      have hc := (htail.not_digit rfl).1
      simp [hc]

theorem toDigits_head {n : Nat} (h : 0 < n) :
    exists c rest, Nat.toDigits 10 n = c :: rest ∧ c ≠ '0' := by
  induction n using Nat.strongRecOn with
  | ind n ih =>
      by_cases hsmall : n < 10
      · refine ⟨n.digitChar, [], Nat.toDigits_of_lt_base hsmall, ?_⟩
        have hall : forall d, d < 10 -> 0 < d -> d.digitChar ≠ '0' := by
          decide
        exact hall n hsmall h
      · rcases ih (n / 10) (by lia) (by lia) with ⟨c, rest, hdigits, hc⟩
        refine ⟨c, rest ++ [(n % 10).digitChar], ?_, hc⟩
        rw [Nat.toDigits_of_base_le (by decide) (by lia), hdigits]
        rfl

theorem toDigits_isDigit {n : Nat} {c : Char} (h : c ∈ Nat.toDigits 10 n) :
    c.isDigit = true :=
  Nat.isDigit_of_mem_toDigits (by decide) (by decide) h

theorem scanInteger_toDigits (n : Nat) {tail : List Char}
    (h : Stops tail) :
    scanInteger (Nat.toDigits 10 n ++ tail) =
      some (Nat.toDigits 10 n, tail) := by
  by_cases hzero : n = 0
  · subst hzero
    rfl
  · rcases toDigits_head (Nat.pos_of_ne_zero hzero) with
      ⟨c, rest, hdigits, hc⟩
    have hall : forall d, d ∈ c :: rest -> d.isDigit = true := by
      rw [← hdigits]
      exact fun d => toDigits_isDigit
    have hstop := digits_stop
      (fun d (hd : d ∈ rest) => hall d (List.mem_cons_of_mem _ hd)) h
    rw [hdigits, List.cons_append, scanInteger, if_neg hc,
      if_pos (hall c (by simp)), hstop.1, hstop.2]

theorem scanFraction_of_stops {tail : List Char} (h : Stops tail) :
    scanFraction tail = ([], tail) := by
  cases tail with
  | nil => rfl
  | cons c tail =>
      rw [scanFraction, if_neg]
      rintro ⟨hc, _⟩
      exact (h.not_digit rfl).2.1 hc

theorem scanExponent_of_stops {tail : List Char} (h : Stops tail) :
    scanExponent tail = ([], tail) := by
  cases tail with
  | nil => rfl
  | cons c tail =>
      rcases h.not_digit rfl with ⟨_, _, he, hE⟩
      simp only [scanExponent]
      rw [if_neg]
      rintro ⟨hc | hc, _⟩
      · exact he hc
      · exact hE hc

theorem scanSign_toDigits (n : Nat) (tail : List Char) :
    scanSign ['-'] (Nat.toDigits 10 n ++ tail) =
      ([], Nat.toDigits 10 n ++ tail) := by
  cases hdigits : Nat.toDigits 10 n with
  | nil => exact absurd hdigits Nat.toDigits_ne_nil
  | cons c rest =>
      have hc : c.isDigit = true := toDigits_isDigit (by rw [hdigits]; simp)
      rw [List.cons_append, scanSign, if_neg]
      intro hmem
      cases List.mem_singleton.mp hmem
      cases hc

theorem numberOf_toDigits {n : Int} (h : Plain (int n)) {sign : List Char}
    (hvalue : intValue sign (Nat.toDigits 10 n.natAbs) = n) :
    numberOf sign (Nat.toDigits 10 n.natAbs) [] [] = some (int n) := by
  rw [numberOf, if_pos (List.append_nil []), if_neg (Nat.not_lt.mpr h), hvalue]

theorem scanNumber_dumpsInt {n : Int} (hn : Plain (int n))
    {tail : List Char} (h : Stops tail) :
    scanNumber (dumpsInt n ++ tail) = some (int n, tail) := by
  have hinteger := scanInteger_toDigits n.natAbs h
  have hfraction := scanFraction_of_stops h
  have hexponent := scanExponent_of_stops h
  unfold dumpsInt
  split
  · rename_i hneg
    have hvalue : intValue ['-'] (Nat.toDigits 10 n.natAbs) = n := by
      unfold intValue
      rw [if_neg (by decide), Nat.ofDigitChars_ten_toDigits]
      lia
    unfold scanNumber
    rw [List.cons_append, scanSign, if_pos (by decide)]
    simp [hinteger, hfraction, hexponent, numberOf_toDigits hn hvalue]
  · rename_i hneg
    have hvalue : intValue [] (Nat.toDigits 10 n.natAbs) = n := by
      unfold intValue
      rw [if_pos rfl, Nat.ofDigitChars_ten_toDigits]
      lia
    unfold scanNumber
    rw [scanSign_toDigits]
    simp [hinteger, hfraction, hexponent, numberOf_toDigits hn hvalue]

/-!
## Values
-/

theorem scanValue_space (fuel depth : Nat) (text : List Char) :
    scanValue fuel depth (' ' :: text) = scanValue fuel depth text := by
  cases fuel with
  | zero => rfl
  | succ fuel => rfl

theorem scanItems_space (fuel depth : Nat) (text : List Char) :
    scanItems fuel depth (' ' :: text) = scanItems fuel depth text := by
  cases fuel with
  | zero => rfl
  | succ fuel => rw [scanItems, scanItems, scanValue_space]

theorem enough_fuel {fuel depth : Nat} {text : List Char}
    {result : Json × List Char}
    (h : scanValue fuel depth text = Except.ok result) :
    exists bound, forall enough, bound ≤ enough ->
      scanValue enough depth text = Except.ok result :=
  ⟨2 * text.length + 1, fun _ henough =>
    (scan_fuel fuel).1 _ _ _ _ _ henough h⟩

theorem enough_fuel_members {fuel depth : Nat} {text : List Char}
    {result : List (List Nat × Json) × List Char}
    (h : scanMembers fuel depth text = Except.ok result) :
    exists bound, forall enough, bound ≤ enough ->
      scanMembers enough depth text = Except.ok result :=
  ⟨2 * text.length + 1, fun _ henough =>
    (scan_fuel fuel).2.1 _ _ _ _ _ henough h⟩

theorem enough_fuel_items {fuel depth : Nat} {text : List Char}
    {result : List Json × List Char}
    (h : scanItems fuel depth text = Except.ok result) :
    exists bound, forall enough, bound ≤ enough ->
      scanItems enough depth text = Except.ok result :=
  ⟨2 * text.length + 2, fun _ henough =>
    (scan_fuel fuel).2.2 _ _ _ _ _ henough h⟩

theorem scanNumber_first {text : List Char} {found : Json × List Char}
    (h : scanNumber text = some found) :
    exists c rest, text = c :: rest ∧
      forall d : Char, d ≠ '-' -> d.isDigit = false -> c ≠ d := by
  cases text with
  | nil => cases h
  | cons c rest =>
      refine ⟨c, rest, rfl, ?_⟩
      rintro d hminus hdigit rfl
      unfold scanNumber at h
      rw [scanSign, if_neg (by simpa using hminus)] at h
      rcases Option.bind_eq_some_iff.mp h with ⟨digits, hdigits, _⟩
      rw [scanInteger] at hdigits
      split at hdigits
      · rename_i hzero
        rw [hzero] at hdigit
        cases hdigit
      · rw [hdigit] at hdigits
        cases hdigits

theorem next_cons_of_number {c : Char} {rest : List Char}
    (h : forall d : Char, d ≠ '-' -> d.isDigit = false -> c ≠ d) :
    next (c :: rest) = some (c, rest) := by
  have hspace : isSpace c = false := by
    simp only [isSpace, Bool.or_eq_false_iff, decide_eq_false_iff_not]
    exact ⟨⟨⟨h _ (by decide) rfl, h _ (by decide) rfl⟩,
      h _ (by decide) rfl⟩, h _ (by decide) rfl⟩
  rw [next_eq_some, List.dropWhile_cons_of_neg (by simp [hspace])]

theorem scanValue_of_scanNumber {text : List Char}
    {result : Json × List Char} (h : scanNumber text = some result)
    (depth : Nat) : scanValue 1 depth text = Except.ok result := by
  rcases scanNumber_first h with ⟨c, rest, rfl, hc⟩
  rcases result with ⟨value, behind⟩
  refine scanValue_eq_ok.mpr ⟨c, rest, next_cons_of_number hc,
    ValueForm.scalar (hc _ (by decide) rfl) (hc _ (by decide) rfl)
      (hc _ (by decide) rfl) ?_⟩
  exact scanScalar_of_scanNumber h (hc _ (by decide) rfl)
    (hc _ (by decide) rfl) (hc _ (by decide) rfl)

theorem stops_cons {c : Char} (h : endsNumber c = true) (rest : List Char) :
    Stops (c :: rest) := by
  intro d hd
  cases hd
  exact h

theorem stops_dumpsItems (items : List Json) (tail : List Char) :
    Stops (dumpsItems false items ++ (']' :: tail)) := by
  cases items with
  | nil => exact stops_cons rfl tail
  | cons item items => exact stops_cons rfl _

theorem stops_dumpsMembers (members : List (List Nat × Json))
    (tail : List Char) :
    Stops (dumpsMembers false members ++ ('}' :: tail)) := by
  cases members with
  | nil => exact stops_cons rfl tail
  | cons member members => exact stops_cons rfl _

/-- A value does not begin like the end of a list. -/
theorem next_dumps {item : Json} (h : Plain item) (tail : List Char) :
    exists c rest, next (dumps item ++ tail) = some (c, rest) ∧ c ≠ ']' := by
  cases item with
  | null => exact ⟨'n', _, rfl, by decide⟩
  | bool value =>
      cases value with
      | true => exact ⟨'t', _, rfl, by decide⟩
      | false => exact ⟨'f', _, rfl, by decide⟩
  | float literal => exact h.elim
  | str points => exact ⟨'"', _, rfl, by decide⟩
  | arr items => exact ⟨'[', _, rfl, by decide⟩
  | obj members => exact ⟨'{', _, rfl, by decide⟩
  | int n =>
      have hscan : scanNumber (dumpsInt n ++ []) = some (Json.int n, []) :=
        scanNumber_dumpsInt h (by nofun)
      rw [List.append_nil] at hscan
      rcases scanNumber_first hscan with ⟨c, rest, htext, hc⟩
      refine ⟨c, rest ++ tail, ?_, hc _ (by decide) rfl⟩
      rw [dumps, htext]
      exact next_cons_of_number hc

/-- The members of an object behind the quote that opens the first key. -/
def membersText (k : List Nat) (v : Json) (members : List (List Nat × Json))
    (tail : List Char) : List Char :=
  k.flatMap escapePoint ++ ('"' :: ':' :: ' ' ::
    (dumps v ++ (dumpsMembers false members ++ ('}' :: tail))))

theorem dumpsMembers_true (k : List Nat) (v : Json)
    (members : List (List Nat × Json)) (tail : List Char) :
    dumpsMembers true ((k, v) :: members) ++ ('}' :: tail) =
      '"' :: membersText k v members tail := by
  simp [dumpsMembers, separator, dumpsString, membersText]

theorem dumpsMembers_false (k : List Nat) (v : Json)
    (members : List (List Nat × Json)) (tail : List Char) :
    dumpsMembers false ((k, v) :: members) ++ ('}' :: tail) =
      ',' :: ' ' :: '"' :: membersText k v members tail := by
  simp [dumpsMembers, separator, dumpsString, membersText]

theorem dumpsItems_true (item : Json) (items : List Json)
    (tail : List Char) :
    dumpsItems true (item :: items) ++ (']' :: tail) =
      dumps item ++ (dumpsItems false items ++ (']' :: tail)) := by
  simp [dumpsItems, separator]

theorem dumpsItems_false (item : Json) (items : List Json)
    (tail : List Char) :
    dumpsItems false (item :: items) ++ (']' :: tail) =
      ',' :: ' ' :: (dumpsItems true (item :: items) ++ (']' :: tail)) := by
  simp [dumpsItems, separator]

mutual

theorem scanValue_dumps : (value : Json) -> Plain value ->
    forall depth, height value ≤ depth -> forall tail, Stops tail ->
      exists fuel, scanValue fuel depth (dumps value ++ tail) =
        Except.ok (value, tail)
  | null, _ => fun _ _ _ _ => ⟨1, rfl⟩
  | bool true, _ => fun _ _ _ _ => ⟨1, rfl⟩
  | bool false, _ => fun _ _ _ _ => ⟨1, rfl⟩
  | int n, hn => fun depth _ _ hstops =>
      ⟨1, scanValue_of_scanNumber (scanNumber_dumpsInt hn hstops) depth⟩
  | str points, hplain => by
      intro depth _ tail _
      refine ⟨1, scanValue_eq_ok.mpr ⟨'"', _, rfl, ValueForm.str ?_⟩⟩
      simpa using scanString_dumpsString hplain tail
  | arr [], _ => by
      rintro (_ | depth) hdepth
      · cases hdepth
      · exact fun _ _ => ⟨1, rfl⟩
  | arr (item :: items), hplain => by
      rintro (_ | depth) hdepth tail _
      · cases hdepth
      rcases scanItems_dumps (item :: items) hplain (List.cons_ne_nil _ _)
        depth (Nat.le_of_succ_le_succ hdepth) tail with ⟨fuel, hscan⟩
      rcases next_dumps hplain.1 (dumpsItems false items ++ (']' :: tail)) with
        ⟨c, rest, hnext, hc⟩
      rw [← dumpsItems_true] at hnext
      have harr := ValueForm.arr hnext hc hscan
      refine ⟨fuel + 1, scanValue_eq_ok.mpr ⟨'[', _, rfl, ?_⟩⟩
      simpa using harr
  | obj [], _ => by
      rintro (_ | depth) hdepth
      · cases hdepth
      · exact fun _ _ => ⟨1, rfl⟩
  | obj ((k, v) :: members), hplain => by
      rintro (_ | depth) hdepth tail _
      · cases hdepth
      rcases scanMembers_dumps ((k, v) :: members) hplain.1 depth
        (Nat.le_of_succ_le_succ hdepth) k v members rfl tail with
        ⟨fuel, hscan⟩
      refine ⟨fuel + 1, scanValue_eq_ok.mpr ⟨'{', _, rfl, ?_⟩⟩
      have hobj : ValueForm fuel (depth + 1) '{'
          (dumpsMembers true ((k, v) :: members) ++ ('}' :: tail))
          (obj (ofEntries ((k, v) :: members))) tail := by
        rw [dumpsMembers_true]
        exact ValueForm.obj rfl hscan
      rw [ofEntries_of_nodup hplain.2] at hobj
      simpa using hobj

theorem scanItems_dumps : (items : List Json) -> PlainItems items ->
    items ≠ [] -> forall depth, heightItems items ≤ depth ->
    forall tail, exists fuel,
      scanItems fuel depth (dumpsItems true items ++ (']' :: tail)) =
        Except.ok (items, tail)
  | [], _ => fun hne => absurd rfl hne
  | [item], hitems => by
      intro _ depth hdepth tail
      rcases scanValue_dumps item hitems.1 depth
        (Nat.le_trans (Nat.le_max_left _ _) hdepth) (']' :: tail)
        (stops_cons rfl tail) with ⟨fuel, hscan⟩
      refine ⟨fuel + 1, scanItems_eq_ok.mpr ?_⟩
      rw [dumpsItems_true]
      exact ItemsForm.last hscan rfl
  | item :: second :: items, hitems => by
      intro _ depth hdepth tail
      rcases scanValue_dumps item hitems.1 depth
        (Nat.le_trans (Nat.le_max_left _ _) hdepth) _
        (stops_dumpsItems (second :: items) tail) with ⟨fuel, hscan⟩
      rcases scanItems_dumps (second :: items) hitems.2
        (List.cons_ne_nil _ _) depth
        (Nat.le_trans (Nat.le_max_right _ _) hdepth) tail with
        ⟨fuel', hmore⟩
      rw [dumpsItems_false] at hscan
      rcases enough_fuel hscan with ⟨bound, hscan⟩
      rcases enough_fuel_items hmore with ⟨bound', hmore⟩
      refine ⟨max bound bound' + 1, scanItems_eq_ok.mpr ?_⟩
      rw [dumpsItems_true, dumpsItems_false]
      refine ItemsForm.more (hscan _ (Nat.le_max_left _ _)) rfl ?_
      rw [scanItems_space]
      exact hmore _ (Nat.le_max_right _ _)

theorem scanMembers_dumps : (members : List (List Nat × Json)) ->
    PlainMembers members -> forall depth, heightMembers members ≤ depth ->
    forall k v more, members = (k, v) :: more ->
    forall tail, exists fuel,
      scanMembers fuel depth (membersText k v more tail) =
        Except.ok (members, tail)
  | [], _ => fun _ _ _ _ _ h => nomatch h
  | [(k, v)], hmembers => by
      intro depth hdepth _ _ _ h tail
      cases h
      rcases scanValue_dumps v hmembers.2.1 depth
        (Nat.le_trans (Nat.le_max_left _ _) hdepth) ('}' :: tail)
        (stops_cons rfl tail) with ⟨fuel, hscan⟩
      rw [← scanValue_space] at hscan
      exact ⟨fuel + 1, scanMembers_eq_ok.mpr
        (MembersForm.last (scanString_dumpsString hmembers.1 _) rfl hscan
          rfl)⟩
  | (k, v) :: (k', v') :: members, hmembers => by
      intro depth hdepth _ _ _ h tail
      cases h
      rcases scanValue_dumps v hmembers.2.1 depth
        (Nat.le_trans (Nat.le_max_left _ _) hdepth) _
        (stops_dumpsMembers ((k', v') :: members) tail) with ⟨fuel, hscan⟩
      rcases scanMembers_dumps ((k', v') :: members) hmembers.2.2 depth
        (Nat.le_trans (Nat.le_max_right _ _) hdepth) k' v' members rfl
        tail with ⟨fuel', hmore⟩
      rw [dumpsMembers_false] at hscan
      rcases enough_fuel hscan with ⟨bound, hscan⟩
      rcases enough_fuel_members hmore with ⟨bound', hmore⟩
      have hvalue := hscan (max bound bound') (Nat.le_max_left _ _)
      have hmembers' := hmore (max bound bound') (Nat.le_max_right _ _)
      rw [← scanValue_space] at hvalue
      refine ⟨max bound bound' + 1, scanMembers_eq_ok.mpr ?_⟩
      rw [membersText, dumpsMembers_false]
      exact MembersForm.more (scanString_dumpsString hmembers.1 _) rfl hvalue
        rfl rfl hmembers'

end

/-!
## ASCII
-/

/-- A character that is written: printable ASCII. -/
def isPrintable (c : Char) : Bool :=
  decide (32 ≤ c.toNat ∧ c.toNat ≤ 126)

theorem isPrintable_digitChar {d : Nat} (h : d < 16) :
    isPrintable d.digitChar = true := by
  have hall : forall d, d < 16 -> isPrintable d.digitChar = true := by decide
  exact hall d h

theorem escapeUnit_printable (n : Nat) :
    forall c, c ∈ escapeUnit n -> isPrintable c = true := by
  intro c hc
  have hdigit : forall m, isPrintable (m % 16).digitChar = true :=
    fun m => isPrintable_digitChar (Nat.mod_lt _ (by decide))
  simp only [escapeUnit, List.mem_cons, List.not_mem_nil, or_false] at hc
  rcases hc with rfl | rfl | rfl | rfl | rfl | rfl
  · rfl
  · rfl
  · exact hdigit _
  · exact hdigit _
  · exact hdigit _
  · exact hdigit _

theorem escapePoint_printable (n : Nat) :
    forall c, c ∈ escapePoint n -> isPrintable c = true := by
  intro c hc
  unfold escapePoint at hc
  cases hshort : shortEscapes.lookup n with
  | some letter =>
      rw [hshort] at hc
      have hall : forall entry, entry ∈ shortEscapes ->
          isPrintable entry.2 = true := by decide
      have hletter := hall (n, letter) (mem_of_lookup hshort)
      simp only [List.mem_cons, List.not_mem_nil, or_false] at hc
      rcases hc with rfl | rfl
      · rfl
      · exact hletter
  | none =>
      rw [hshort] at hc
      simp only at hc
      split at hc
      · rename_i hprint
        cases List.mem_singleton.mp hc
        rw [isPrintable, toNat_ofNat_of_ascii hprint.2]
        exact decide_eq_true hprint
      · split at hc
        · exact escapeUnit_printable _ c hc
        · rcases List.mem_append.mp hc with hhigh | hlow
          · exact escapeUnit_printable _ c hhigh
          · exact escapeUnit_printable _ c hlow

/-- All characters of a text are written as they stand. -/
def Printable (text : List Char) : Prop :=
  forall c, c ∈ text -> isPrintable c = true

theorem printable_append {text more : List Char} (h : Printable text)
    (hmore : Printable more) : Printable (text ++ more) := by
  intro c hc
  rcases List.mem_append.mp hc with hold | hnew
  · exact h c hold
  · exact hmore c hnew

theorem printable_cons {c : Char} {text : List Char}
    (hc : isPrintable c = true) (h : Printable text) :
    Printable (c :: text) :=
  List.forall_mem_cons.mpr ⟨hc, h⟩

theorem printable_nil : Printable [] := nofun

theorem dumpsString_printable (points : List Nat) :
    Printable (dumpsString points) := by
  refine printable_cons rfl (printable_append ?_
    (printable_cons rfl printable_nil))
  intro c hc
  rcases List.mem_flatMap.mp hc with ⟨n, _, hn⟩
  exact escapePoint_printable n c hn

theorem toDigits_printable (n : Nat) : Printable (Nat.toDigits 10 n) := by
  intro c hc
  have hdigit := toDigits_isDigit hc
  simp only [Char.isDigit, Bool.and_eq_true, decide_eq_true_eq, ge_iff_le,
    UInt32.le_iff_toNat_le] at hdigit
  have hlow : 48 ≤ c.toNat := hdigit.1
  have hhigh : c.toNat ≤ 57 := hdigit.2
  exact decide_eq_true ⟨by lia, by lia⟩

theorem dumpsInt_printable (n : Int) : Printable (dumpsInt n) := by
  unfold dumpsInt
  split
  · exact printable_cons rfl (toDigits_printable _)
  · exact toDigits_printable _

theorem separator_printable (first : Bool) : Printable (separator first) := by
  cases first with
  | true => exact printable_nil
  | false => exact printable_cons rfl (printable_cons rfl printable_nil)

mutual

theorem dumps_printable : (value : Json) -> Plain value ->
    Printable (dumps value)
  | null, _ => List.all_eq_true.mp rfl
  | bool true, _ => List.all_eq_true.mp rfl
  | bool false, _ => List.all_eq_true.mp rfl
  | int n, _ => dumpsInt_printable n
  | float _, hplain => hplain.elim
  | str points, _ => dumpsString_printable points
  | arr items, hplain =>
      printable_cons rfl (printable_append
        (dumpsItems_printable items hplain true)
        (printable_cons rfl printable_nil))
  | obj members, hplain =>
      printable_cons rfl (printable_append
        (dumpsMembers_printable members hplain.1 true)
        (printable_cons rfl printable_nil))

theorem dumpsItems_printable : (items : List Json) -> PlainItems items ->
    forall first, Printable (dumpsItems first items)
  | [], _ => fun _ => printable_nil
  | item :: items, hitems => fun first =>
      printable_append (separator_printable first)
        (printable_append (dumps_printable item hitems.1)
          (dumpsItems_printable items hitems.2 false))

theorem dumpsMembers_printable : (members : List (List Nat × Json)) ->
    PlainMembers members -> forall first, Printable (dumpsMembers first members)
  | [], _ => fun _ => printable_nil
  | (k, v) :: members, hmembers => fun first =>
      printable_append (separator_printable first)
        (printable_append (dumpsString_printable k)
          (printable_append
            (printable_cons rfl (printable_cons rfl printable_nil))
            (printable_append (dumps_printable v hmembers.2.1)
              (dumpsMembers_printable members hmembers.2.2 false))))

end

/-!
## Whole texts
-/

theorem not_bom_of_printable {text : List Char} (h : Printable text) :
    text.head? ≠ some '\uFEFF' := by
  intro hhead
  have hc := h _ (List.mem_of_mem_head? hhead)
  cases hc

theorem loads_dumps {value : Json} (h : Plain value) {depth : Nat}
    (hdepth : height value ≤ depth) :
    loads depth (dumps value) = Except.ok value := by
  rcases scanValue_dumps value h depth hdepth [] (by nofun) with
    ⟨fuel, hscan⟩
  rw [List.append_nil] at hscan
  have henough := (scan_fuel fuel).1 _ _ _ _ (2 * (dumps value).length + 1)
    (Nat.lt_succ_self _) hscan
  unfold loads
  rw [if_neg (not_bom_of_printable (dumps_printable value h)), henough]
  rfl

/-- No beginning of an object's text is a text. -/
theorem loads_prefix {members : List (List Nat × Json)}
    (h : Plain (obj members)) {depth : Nat}
    (hdepth : height (obj members) ≤ depth) {text more : List Char}
    (htext : text ++ more = dumps (obj members)) (hmore : more ≠ []) :
    loads depth text = Except.error ScanError.value := by
  rcases scanValue_dumps _ h depth hdepth [] (by nofun) with ⟨fuel, hwhole⟩
  rw [List.append_nil, ← htext] at hwhole
  rcases enough_fuel hwhole with ⟨bound, hwhole⟩
  unfold loads
  split
  · rfl
  cases hscan : scanValue (2 * text.length + 1) depth text with
  | error e =>
      cases e with
      | value => rfl
      | recursion =>
          exfalso
          have hlong := (scan_recursion_append _ more).1 _ _ hscan
          have hdeep := (scan_recursion_fuel _).1 _ _
            (max bound (2 * (text ++ more).length + 1))
            (Nat.le_max_right _ _) hlong
          cases hdeep.symm.trans (hwhole _ (Nat.le_max_left _ _))
  | ok result =>
      exfalso
      rcases result with ⟨value, rest⟩
      have hobject : isObject value = true := by
        rcases scanValue_eq_ok.mp hscan with ⟨c, behind, hnext, hform⟩
        have hc : c = '{' := by
          have hlong := next_append hnext more
          rw [htext] at hlong
          have hfirst : next (dumps (obj members)) = some ('{', _) := rfl
          rw [hfirst] at hlong
          exact (Prod.mk.inj (Option.some.inj hlong)).1.symm
        subst hc
        cases hform with
        | empty => rfl
        | obj => rfl
        | scalar _ hbrace => exact absurd rfl hbrace
      have hlong := (scan_append _ more).1 _ _ _ _ hscan (Or.inr hobject)
      rcases enough_fuel hlong with ⟨bound', hlong⟩
      have hsame := (hlong _ (Nat.le_max_right bound bound')).symm.trans
        (hwhole _ (Nat.le_max_left bound bound'))
      cases hrest : rest ++ more with
      | nil => exact hmore (List.append_eq_nil_iff.mp hrest).2
      | cons c tail =>
          rw [hrest] at hsame
          cases hsame

end Json
end Foundation
end IntelAmt

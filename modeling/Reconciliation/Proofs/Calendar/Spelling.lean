import Mathlib.Data.List.Basic
import Reconciliation.Proofs.Calendar.Recognition

/-! # Dates in every recognised layout

A written date is read back in its own layout, whatever time of day stands after it
(`Layout.parse?_of_spells`). No earlier layout captures it: how far a layout reads depends on the
places of digits, letters and marks alone, so it is enough to try the earlier layouts on one sample
text for each layout, with every digit a one (`Layout.parse?_eq_none_of_sample`). A date written in
a recognised layout is therefore recognised as itself (`Date.recognise?_of_writtenIn`).
-/

namespace Reconciliation

-- Powers stay those of the core library, whatever else is imported beside this module.
attribute [local instance (high)] instPowNat

variable {date : Date} {item next : LayoutItem} {layout : Layout} {parts : DateParts}
  {cs text rest : List Char} {c : Char} {width low high n : Nat}

/-! ## Written dates -/

/-- The texts of an item for a date, at any time of the day. -/
inductive LayoutItem.Spells (date : Date) : LayoutItem → List Char → Prop where
  | year (short : date.FourDigitYear) : Spells date .year (yearText date.year)
  | shortYear (recent : 1970 ≤ date.year ∧ date.year ≤ 2069) :
      Spells date .shortYear (paddedDigits 2 (date.year % 100).toNat)
  | month : Spells date .month (paddedDigits 2 date.month)
  /-- The letters of the name of a month stand in any case. -/
  | monthName {name : List Char}
      (letters : name.map Char.toLower =
        (monthNames.getD (date.month - 1) "").toList.map Char.toLower) :
      Spells date .monthName name
  | day : Spells date .day (paddedDigits 2 date.day)
  | hour {hour : Nat} (bound : hour < 24) : Spells date .hour (paddedDigits 2 hour)
  | minute {minute : Nat} (bound : minute < 60) : Spells date .minute (paddedDigits 2 minute)
  /-- The sixtieth second is a leap second. -/
  | second {second : Nat} (bound : second ≤ 60) : Spells date .second (paddedDigits 2 second)
  | fraction {digits : List Char} (isDigits : Digits digits) :
      Spells date .fraction ('.' :: digits)
  | blank : Spells date .blank [' ']
  | mark (c : Char) : Spells date (.mark c) [c]

/-- The texts of a date in a layout, at any time of the day. -/
inductive Layout.Spells (date : Date) : Layout → List Char → Prop where
  | nil : Spells date [] []
  | cons {item : LayoutItem} {layout : Layout} {text rest : List Char}
      (first : item.Spells date text) (others : Spells date layout rest) :
      Spells date (item :: layout) (text ++ rest)

/-! ## Reading a written date -/

namespace LayoutItem

/-- Whether an item is written in digits only. -/
def isNumber : LayoutItem → Bool
  | .year | .shortYear | .month | .day | .hour | .minute | .second => true
  | _ => false

theorem Spells.digits (spelled : item.Spells date text) (number : item.isNumber = true) :
    Digits text := by
  cases spelled with
  | year short =>
      rw [Date.yearText_of_fourDigit short]
      exact digits_paddedDigits 4 _
  | shortYear | month | day | hour | minute | second => exact digits_paddedDigits 2 _
  | monthName | fraction | blank | mark => cases number

/-- The parts of a date with those that an item tells. -/
def fill (date : Date) (parts : DateParts) : LayoutItem → DateParts
  | .year | .shortYear => { parts with year := some date.year }
  | .month | .monthName => { parts with month := some date.month }
  | .day => { parts with day := some date.day }
  | _ => parts

/-- What an item that reads as far as it can needs after it to end where it was written. -/
def Ends (rest : List Char) : LayoutItem → Prop
  | .blank => ∀ c ∈ rest.head?, Text.isBlank c = false
  | .fraction => rest = []
  | _ => True

theorem readField?_two_append (small : n < 100) (bounds : low ≤ n ∧ n ≤ high) :
    readField? low high (paddedDigits 2 n ++ rest) = some (n, rest) :=
  readField?_append (digits_paddedDigits 2 n) (.inl (length_paddedDigits (by decide) small))
    (natOfDigits_paddedDigits 2 n) bounds

theorem findIdx?_monthName {month : Nat} (bounds : 1 ≤ month ∧ month ≤ 12) :
    monthNames.findIdx? (fun name => name.toList.map Char.toLower ==
        (monthNames.getD (month - 1) "").toList.map Char.toLower) = some (month - 1) ∧
      ((monthNames.getD (month - 1) "").toList.map Char.toLower).length = 3 := by
  have all : ∀ index < 12, monthNames.findIdx? (fun name => name.toList.map Char.toLower ==
        (monthNames.getD index "").toList.map Char.toLower) = some index ∧
      ((monthNames.getD index "").toList.map Char.toLower).length = 3 := by
    decide +kernel
  exact all (month - 1) (by omega)

/-- The name of a month is read in any case. -/
theorem readMonthName?_append {name : List Char}
    (letters : name.map Char.toLower =
      (monthNames.getD (date.month - 1) "").toList.map Char.toLower) :
    readMonthName? (name ++ rest) = some (date.month, rest) := by
  obtain ⟨found, length⟩ := findIdx?_monthName date.isDay.2.1
  have three : name.length = 3 := by
    rw [← List.length_map, letters, length]
  have positive := date.isDay.2.1.1
  unfold readMonthName?
  dsimp only
  rw [← three, List.take_left, List.drop_left, letters, found]
  dsimp only
  rw [Nat.sub_add_cancel positive]

/-- **An item reads back what was written.** -/
theorem Spells.read? (spelled : item.Spells date text) (parts : DateParts)
    (ends : item.Ends rest) :
    item.read? parts (text ++ rest) = some (item.fill date parts, rest) := by
  cases spelled with
  | year short =>
      obtain ⟨low, high⟩ := short
      rw [Date.yearText_of_fourDigit ⟨low, high⟩, LayoutItem.read?,
        readYear?_append (digits_paddedDigits 4 _) (Date.length_yearDigits ⟨low, high⟩),
        natOfDigits_paddedDigits, Int.toNat_of_nonneg low]
      rfl
  | shortYear recent =>
      rw [LayoutItem.read?, readField?_two_append (by omega) (by omega)]
      simp only [Option.map_some, fill]
      congr 4
      split <;> omega
  | month =>
      rw [LayoutItem.read?, readField?_two_append date.month_lt date.isDay.2.1]
      rfl
  | monthName letters =>
      rw [LayoutItem.read?, readMonthName?_append letters]
      rfl
  | day =>
      obtain ⟨first, last⟩ := date.isDay.2.2
      have last := Nat.le_trans last (Date.daysInMonth_le ..)
      rw [LayoutItem.read?, readField?_two_append date.day_lt ⟨first, last⟩]
      rfl
  | hour bound =>
      rw [LayoutItem.read?, readField?_two_append (by omega) (by omega)]
      rfl
  | minute bound =>
      rw [LayoutItem.read?, readField?_two_append (by omega) (by omega)]
      rfl
  | second bound =>
      rw [LayoutItem.read?, readField?_two_append (by omega) (by omega)]
      rfl
  | @fraction digits isDigits =>
      obtain rfl : rest = [] := ends
      have whole : readDigits? digits.length (digits ++ []) = some (natOfDigits digits, []) :=
        readDigits?_append isDigits (.inl rfl)
      rw [List.append_nil] at whole ⊢
      rw [LayoutItem.read?, whole]
      rfl
  | blank =>
      change some (parts, Text.trimStart rest) = some (parts, rest)
      rw [Text.trimStart_of_head ends]
  | mark c =>
      rw [List.singleton_append, LayoutItem.read?, if_pos rfl]
      rfl

end LayoutItem

namespace Layout

/-- A layout whose items end where they were written: a fraction stands last, and after blanks a
number. -/
def Separated (layout : Layout) : Prop :=
  layout.IsChain fun item next => item ≠ .fraction ∧ (item = .blank → next.isNumber = true)

instance (layout : Layout) : Decidable layout.Separated :=
  inferInstanceAs (Decidable (List.IsChain _ layout))

theorem Spells.ends {item : LayoutItem} (spelled : Layout.Spells date layout rest)
    (separated : Layout.Separated (item :: layout)) : item.Ends rest := by
  cases item with
  | blank =>
      cases spelled with
      | nil => nofun
      | cons first others =>
          obtain ⟨⟨-, number⟩, -⟩ := List.isChain_cons_cons.mp separated
          intro c head
          obtain ⟨d, digits, digit, rfl⟩ := (first.digits (number rfl)).exists_cons
          cases head
          exact Text.isBlank_of_isDigit digit
  | fraction =>
      cases spelled with
      | nil => rfl
      | cons first others => exact ((List.isChain_cons_cons.mp separated).1.1 rfl).elim
  | year | shortYear | month | monthName | day | hour | minute | second | mark => trivial

/-- A layout reads back all that was written. -/
theorem Spells.read? (spelled : layout.Spells date text) (separated : layout.Separated)
    (parts : DateParts) :
    layout.read? parts text = some (layout.foldl (LayoutItem.fill date) parts) := by
  induction spelled generalizing parts with
  | nil => rfl
  | cons first others ih =>
      apply read?_cons_eq_some_iff.mpr
      refine ⟨_, _, first.read? parts (others.ends separated), ?_⟩
      exact ih separated.of_cons _

theorem separated_of_mem (listed : layout ∈ Date.recognisedLayouts) : layout.Separated := by
  have all : ∀ layout ∈ Date.recognisedLayouts, layout.Separated := by decide
  exact all layout listed

/-- **A date is read back in the layout in which it was written.** -/
theorem parse?_of_spells (listed : layout ∈ Date.recognisedLayouts)
    (spelled : layout.Spells date text) : layout.parse? text = some date := by
  have complete : layout.foldl (LayoutItem.fill date) {} =
      ⟨some date.year, some date.month, some date.day⟩ := by
    simp only [Date.recognisedLayouts, List.mem_cons, List.not_mem_nil, or_false] at listed
    rcases listed with rfl | rfl | rfl | rfl | rfl | rfl | rfl | rfl | rfl <;> rfl
  unfold parse?
  rw [spelled.read? (separated_of_mem listed), complete]
  exact dif_pos date.isDay

end Layout

/-! ## Sample texts -/

/-- The character that stands for a character in a sample: a one for every digit, `x` for every
letter. -/
def sampleChar (c : Char) : Char :=
  if c.isDigit then '1' else if c.isAlpha then 'x' else c

theorem sampleChar_of_isDigit (digit : c.isDigit = true) : sampleChar c = '1' :=
  if_pos digit

theorem isBlank_of_isAlpha (letter : c.isAlpha = true) : Text.isBlank c = false := by
  have bounds : 65 ≤ c.toNat ∧ c.toNat ≤ 122 := by
    rcases (Bool.or_eq_true _ _).mp letter with upper | lower
    · have between : 65 ≤ c.toNat ∧ c.toNat ≤ 90 := of_decide_eq_true upper
      omega
    · obtain ⟨above, below⟩ := (Bool.and_eq_true _ _).mp lower
      have low : 97 ≤ c.toNat := of_decide_eq_true above
      have high : c.toNat ≤ 122 := of_decide_eq_true below
      omega
  simp only [Text.isBlank, Bool.or_eq_false_iff, Bool.and_eq_false_iff, decide_eq_false_iff_not,
    beq_eq_false_iff_ne]
  omega

theorem isDigit_sampleChar (c : Char) : (sampleChar c).isDigit = c.isDigit := by
  unfold sampleChar
  split
  · next digit => exact digit.symm
  · next noDigit =>
      split
      · exact (Bool.eq_false_iff.mpr noDigit).symm
      · rfl

theorem isBlank_sampleChar (c : Char) : Text.isBlank (sampleChar c) = Text.isBlank c := by
  unfold sampleChar
  split
  · next digit => exact (Text.isBlank_of_isDigit digit).symm
  · split
    · next letter => exact (isBlank_of_isAlpha letter).symm
    · rfl

/-- A mark stands for itself and for no other character. -/
theorem sampleChar_eq_iff {mark : Char} (kept : mark.isAlphanum = false) :
    sampleChar c = mark ↔ c = mark := by
  obtain ⟨noLetter, noDigit⟩ := (Bool.or_eq_false_iff).mp kept
  unfold sampleChar
  constructor
  · intro same
    split at same
    · subst same
      cases noDigit
    · split at same
      · subst same
        cases noLetter
      · exact same
  · rintro rfl
    rw [noDigit, noLetter]
    rfl

/-- The sample of a text. -/
def sample (cs : List Char) : List Char :=
  cs.map sampleChar

theorem trimStart_sample (cs : List Char) :
    Text.trimStart (sample cs) = sample (Text.trimStart cs) := by
  unfold Text.trimStart sample
  rw [List.dropWhile_map]
  congr 2
  funext c
  exact isBlank_sampleChar c

theorem sample_digits (all : ∀ c ∈ cs, c.isDigit = true) :
    sample cs = List.replicate cs.length '1' := by
  refine List.eq_replicate_iff.mpr ⟨List.length_map _, ?_⟩
  intro c member
  obtain ⟨d, digit, rfl⟩ := List.mem_map.mp member
  exact sampleChar_of_isDigit (all d digit)

/-- Where digits are read, so are as many ones. -/
theorem readDigits?_sample (read : readDigits? width cs = some (n, rest)) :
    ∃ places, (0 < places ∧ places ≤ width) ∧
      readDigits? width (sample cs) =
        some (natOfDigits (List.replicate places '1'), sample rest) := by
  have same : Char.isDigit ∘ sampleChar = Char.isDigit := funext isDigit_sampleChar
  unfold readDigits? at read ⊢
  dsimp only at read ⊢
  rw [sample, ← List.map_take, List.takeWhile_map, same, List.isEmpty_map, List.length_map,
    ← List.map_drop]
  split at read
  · cases read
  · next nonempty =>
      cases read
      refine ⟨_, ⟨List.length_pos_iff.mpr (mt List.isEmpty_iff.mpr nonempty), ?_⟩, ?_⟩
      · exact Nat.le_trans (List.takeWhile_sublist _).length_le (List.length_take_le ..)
      · rw [if_neg nonempty, ← sample_digits (List.all_eq_true.mp List.all_takeWhile)]
        rfl

/-- Where one reader succeeds on a text, another one does on the sample, and both leave the same. -/
def Sampled {α β : Type} (result : Option (α × List Char)) (onSample : Option (β × List Char)) :
    Prop :=
  ∀ value rest, result = some (value, rest) → ∃ other, onSample = some (other, sample rest)

theorem Sampled.map {α β γ δ : Type} {result : Option (α × List Char)}
    {onSample : Option (β × List Char)} (sampled : Sampled result onSample)
    {f : α × List Char → γ × List Char} {g : β × List Char → δ × List Char}
    (rests : ∀ result, (f result).2 = result.2) (rests' : ∀ result, (g result).2 = result.2) :
    Sampled (result.map f) (onSample.map g) := by
  intro value rest found
  obtain ⟨⟨n, after⟩, found, same⟩ := Option.map_eq_some_iff.mp found
  have leaves := rests (n, after)
  rw [same] at leaves
  obtain ⟨other, foundOther⟩ := sampled n after found
  refine ⟨(g (other, sample after)).1, ?_⟩
  rw [foundOther, Option.map_some, show rest = after from leaves]
  exact congrArg some (Prod.ext rfl (rests' (other, sample after)))

theorem sampled_readDigits? (width : Nat) (cs : List Char) :
    Sampled (readDigits? width cs) (readDigits? width (sample cs)) := by
  intro n rest read
  obtain ⟨places, -, found⟩ := readDigits?_sample read
  exact ⟨_, found⟩

/-- One or two ones make a number that lies between the bounds of every field. -/
theorem sampled_readField? (wide : low ≤ 1 ∧ 11 ≤ high) (cs : List Char) :
    Sampled (readField? low high cs) (readField? low high (sample cs)) := by
  intro n rest read
  obtain ⟨found, -⟩ := Option.filter_eq_some_iff.mp read
  obtain ⟨places, bounds, found⟩ := readDigits?_sample found
  refine ⟨natOfDigits (List.replicate places '1'), ?_⟩
  unfold readField?
  rw [trimStart_sample, found, Option.filter_eq_some_iff]
  refine ⟨rfl, ?_⟩
  have ones : natOfDigits (List.replicate places '1') = if places = 1 then 1 else 11 := by
    obtain rfl | rfl : places = 1 ∨ places = 2 := by omega
    · rfl
    · rfl
  rw [ones]
  simp only [Bool.and_eq_true, decide_eq_true_eq]
  split <;> omega

theorem sampled_readYear? (cs : List Char) :
    Sampled (readYear? cs) (readYear? (sample cs)) := by
  have length (unsigned : List Char) : (sample unsigned).length = unsigned.length :=
    List.length_map _
  unfold readYear?
  rw [trimStart_sample]
  split
  · next unsigned trimmed =>
      rw [trimmed]
      change Sampled _ ((readDigits? (sample unsigned).length (sample unsigned)).map _)
      rw [length]
      exact (sampled_readDigits? _ _).map (fun _ => rfl) fun _ => rfl
  · next unsigned trimmed =>
      rw [trimmed]
      change Sampled _ ((readDigits? (sample unsigned).length (sample unsigned)).map _)
      rw [length]
      exact (sampled_readDigits? _ _).map (fun _ => rfl) fun _ => rfl
  · next noMinus noPlus =>
      have unsigned {sign : Char} {after : List Char} (kept : sign.isAlphanum = false)
          (same : sample (Text.trimStart cs) = sign :: after) :
          ∃ rest, Text.trimStart cs = sign :: rest := by
        obtain ⟨c, rest, trimmed, mark, -⟩ := List.map_eq_cons_iff.mp same
        rw [(sampleChar_eq_iff kept).mp mark] at trimmed
        exact ⟨rest, trimmed⟩
      split
      · next same =>
          obtain ⟨rest, trimmed⟩ := unsigned rfl same
          exact (noMinus rest trimmed).elim
      · next same =>
          obtain ⟨rest, trimmed⟩ := unsigned rfl same
          exact (noPlus rest trimmed).elim
      · exact (sampled_readDigits? _ _).map (fun _ => rfl) fun _ => rfl

namespace LayoutItem

/-- Whether an item reads the sample wherever it reads the text. -/
def isSampled : LayoutItem → Bool
  | .monthName => false
  | .mark c => !c.isAlphanum
  | _ => true

/-- **How far an item reads depends on the sample alone.** -/
theorem sampled_read? (isSampled : item.isSampled = true) (parts others : DateParts)
    (cs : List Char) : Sampled (item.read? parts cs) (item.read? others (sample cs)) := by
  cases item with
  | year => exact (sampled_readYear? cs).map (fun _ => rfl) fun _ => rfl
  | shortYear => exact (sampled_readField? (by decide) cs).map (fun _ => rfl) fun _ => rfl
  | month => exact (sampled_readField? (by decide) cs).map (fun _ => rfl) fun _ => rfl
  | monthName => cases isSampled
  | day => exact (sampled_readField? (by decide) cs).map (fun _ => rfl) fun _ => rfl
  | hour => exact (sampled_readField? (by decide) cs).map (fun _ => rfl) fun _ => rfl
  | minute => exact (sampled_readField? (by decide) cs).map (fun _ => rfl) fun _ => rfl
  | second => exact (sampled_readField? (by decide) cs).map (fun _ => rfl) fun _ => rfl
  | fraction =>
      unfold LayoutItem.read?
      dsimp only
      split
      · next digits =>
          have length : (sample digits).length = digits.length := List.length_map _
          change Sampled _ ((readDigits? (sample digits).length (sample digits)).map _)
          rw [length]
          exact (sampled_readDigits? _ _).map (fun _ => rfl) fun _ => rfl
      · next noPoint =>
          intro value rest read
          cases read
          split
          · next same =>
              obtain ⟨c, digits, pointed, point, -⟩ := List.map_eq_cons_iff.mp same
              rw [(sampleChar_eq_iff rfl).mp point] at pointed
              exact (noPoint digits pointed).elim
          · exact ⟨others, rfl⟩
  | blank =>
      intro value rest read
      cases read
      exact ⟨others, by rw [LayoutItem.read?, trimStart_sample]⟩
  | mark c =>
      have kept : c.isAlphanum = false := (Bool.not_eq_true' _).mp isSampled
      intro value rest read
      cases cs with
      | nil => cases read
      | cons d cs =>
          rw [LayoutItem.read?] at read
          split at read
          · next same =>
              subst same
              cases read
              exact ⟨others, if_pos ((sampleChar_eq_iff kept).mpr rfl).symm⟩
          · cases read

end LayoutItem

namespace Layout

theorem isSome_read?_sample (isSampled : ∀ item ∈ layout, item.isSampled = true)
    (others : DateParts) (read : (layout.read? parts cs).isSome) :
    (layout.read? others (sample cs)).isSome := by
  induction layout generalizing parts others cs with
  | nil =>
      cases cs with
      | nil => rfl
      | cons c cs => cases read
  | cons item layout ih =>
      obtain ⟨first, later⟩ := List.forall_mem_cons.mp isSampled
      obtain ⟨final, found⟩ := Option.isSome_iff_exists.mp read
      obtain ⟨more, rest, here, found⟩ := read?_cons_eq_some_iff.mp found
      obtain ⟨other, onSample⟩ := item.sampled_read? first parts others cs more rest here
      rw [Layout.read?, onSample]
      exact ih later other (Option.isSome_of_eq_some found)

/-- A layout that does not read the sample of a text does not read the text. -/
theorem parse?_eq_none_of_sample (isSampled : ∀ item ∈ layout, item.isSampled = true)
    (none : (layout.read? {} (sample cs)).isNone) : layout.parse? cs = .none := by
  rw [parse?, Option.bind_eq_none_iff]
  intro final found
  have some := isSome_read?_sample isSampled {} (Option.isSome_of_eq_some found)
  rw [Option.isNone_iff_eq_none.mp none] at some
  cases some

end Layout

/-! ## Samples of written dates -/

theorem sampleChar_of_toLower (letter : c.toLower.isLower = true) : sampleChar c = 'x' := by
  have bounds : 65 ≤ c.toNat ∧ c.isAlpha = true := by
    unfold Char.toLower at letter
    split at letter
    · next upper =>
        exact ⟨upper.1, (Bool.or_eq_true _ _).mpr (.inl (decide_eq_true upper))⟩
    · refine ⟨?_, (Bool.or_eq_true _ _).mpr (.inr letter)⟩
      have low : 97 ≤ c.toNat := of_decide_eq_true ((Bool.and_eq_true _ _).mp letter).1
      exact Nat.le_trans (by decide) low
  have noDigit : c.isDigit = false := by
    rw [Bool.eq_false_iff]
    intro digit
    have high := (digit_bounds digit).2
    exact absurd (Nat.le_trans bounds.1 high) (by decide)
  unfold sampleChar
  rw [noDigit, bounds.2]
  rfl

/-- In the sample the names of the months are alike. -/
theorem sample_monthName {name : List Char}
    (letters : name.map Char.toLower =
      (monthNames.getD (date.month - 1) "").toList.map Char.toLower) :
    sample name = ['x', 'x', 'x'] := by
  have table : ((List.range 12).all fun index =>
      ((monthNames.getD index "").toList.map Char.toLower).all Char.isLower) = true := by
    decide +kernel
  obtain ⟨-, length⟩ := LayoutItem.findIdx?_monthName date.isDay.2.1
  rw [← letters, List.length_map] at length
  refine List.eq_replicate_iff.mpr ⟨(List.length_map _).trans length, ?_⟩
  intro c member
  obtain ⟨d, inName, rfl⟩ := List.mem_map.mp member
  have bounds := date.isDay.2.1
  apply sampleChar_of_toLower
  have lower := List.all_eq_true.mp table (date.month - 1) (List.mem_range.mpr (by omega))
  exact List.all_eq_true.mp lower _ (letters ▸ List.mem_map_of_mem inName)

/-- The sample of an item, with some digits in its fraction. -/
def LayoutItem.sampleText (places : Nat) : LayoutItem → List Char
  | .year => ['1', '1', '1', '1']
  | .shortYear | .month | .day | .hour | .minute | .second => ['1', '1']
  | .monthName => ['x', 'x', 'x']
  | .fraction => '.' :: List.replicate places '1'
  | .blank => [' ']
  | .mark c => [sampleChar c]

theorem LayoutItem.sampleText_eq (item : LayoutItem) (whole : item ≠ .fraction) (m n : Nat) :
    item.sampleText m = item.sampleText n := by
  cases item with
  | fraction => exact (whole rfl).elim
  | year | shortYear | month | monthName | day | hour | minute | second | blank | mark => rfl

/-- Whatever the date and the time, the sample of what is written is the same, the number of
digits in a fraction of a second aside. -/
theorem LayoutItem.Spells.exists_sample (spelled : item.Spells date text) :
    ∃ places, sample text = item.sampleText places := by
  have two {n : Nat} (small : n < 100) : sample (paddedDigits 2 n) = ['1', '1'] := by
    rw [sample_digits (digits_paddedDigits 2 n).all, length_paddedDigits (by decide) small]
    rfl
  cases spelled with
  | year short =>
      refine ⟨0, ?_⟩
      rw [Date.yearText_of_fourDigit short, sample_digits (digits_paddedDigits 4 _).all,
        Date.length_yearDigits short]
      rfl
  | shortYear => exact ⟨0, two (by omega)⟩
  | month => exact ⟨0, two date.month_lt⟩
  | monthName letters => exact ⟨0, sample_monthName letters⟩
  | day => exact ⟨0, two date.day_lt⟩
  | hour bound => exact ⟨0, two (by omega)⟩
  | minute bound => exact ⟨0, two (by omega)⟩
  | second bound => exact ⟨0, two (by omega)⟩
  | @fraction digits isDigits =>
      refine ⟨digits.length, ?_⟩
      change sampleChar '.' :: sample digits = _
      rw [sample_digits isDigits.all]
      rfl
  | blank => exact ⟨0, rfl⟩
  | mark c => exact ⟨0, rfl⟩

namespace Layout

/-- The sample of a layout, with some digits in its fraction. -/
def sampleText (layout : Layout) (places : Nat) : List Char :=
  layout.flatMap (·.sampleText places)

theorem Spells.exists_sample (spelled : layout.Spells date text) (separated : layout.Separated) :
    ∃ places, sample text = layout.sampleText places := by
  induction spelled with
  | nil => exact ⟨0, rfl⟩
  | @cons item layout text rest first others ih =>
      obtain ⟨places, here⟩ := first.exists_sample
      by_cases fraction : item = .fraction
      · subst fraction
        cases layout with
        | nil =>
            cases others
            refine ⟨places, ?_⟩
            rw [List.append_nil, here]
            exact (List.append_nil _).symm
        | cons next layout => exact ((List.isChain_cons_cons.mp separated).1.1 rfl).elim
      · obtain ⟨more, there⟩ := ih separated.of_cons
        refine ⟨more, ?_⟩
        rw [sample, List.map_append, ← sample, ← sample, here, there, sampleText, sampleText,
          List.flatMap_cons, item.sampleText_eq fraction places more]

variable (listed : layout ∈ Date.recognisedLayouts)
include listed

theorem sampleText_ends_noBlank (places : Nat) :
    ∃ first last, (layout.sampleText places).head? = some first ∧
      (layout.sampleText places).getLast? = some last ∧
        Text.isBlank first = false ∧ Text.isBlank last = false := by
  simp only [Date.recognisedLayouts, List.mem_cons, List.not_mem_nil, or_false] at listed
  rcases listed with rfl | rfl | rfl | rfl | rfl | rfl | rfl | rfl | rfl
  case inr.inr.inr.inr.inr.inr.inl =>
    -- the last digit of the fraction, or its point
    refine ⟨'1', (List.replicate places '1').getLast?.getD '.', rfl, ?_, rfl, ?_⟩
    · rw [sampleText, List.flatMap_append]
      simp only [List.flatMap_singleton, LayoutItem.sampleText, List.getLast?_append,
        List.getLast?_cons, Option.some_or]
    · rw [List.getLast?_replicate]
      split <;> rfl
  all_goals exact ⟨_, _, rfl, rfl, rfl, rfl⟩

/-- A date begins and ends with no blank. -/
theorem Spells.ends_noBlank (spelled : layout.Spells date text) :
    ∃ first last, text.head? = some first ∧ text.getLast? = some last ∧
      Text.isBlank first = false ∧ Text.isBlank last = false := by
  obtain ⟨places, same⟩ := spelled.exists_sample (separated_of_mem listed)
  have noBlanks := sampleText_ends_noBlank listed places
  rw [← same, sample, List.head?_map, List.getLast?_map] at noBlanks
  obtain ⟨_, _, atHead, atEnd, noBlankFirst, noBlankLast⟩ := noBlanks
  obtain ⟨first, head, rfl⟩ := Option.map_eq_some_iff.mp atHead
  obtain ⟨last, getLast, rfl⟩ := Option.map_eq_some_iff.mp atEnd
  rw [isBlank_sampleChar] at noBlankFirst noBlankLast
  exact ⟨first, last, head, getLast, noBlankFirst, noBlankLast⟩

omit listed in
/-- The layouts that are tried before a layout. -/
def earlier (layout : Layout) : List Layout :=
  Date.recognisedLayouts.takeWhile (· != layout)

/-- No earlier layout reads the sample of a recognised one. -/
theorem isNone_read?_sampleText (places : Nat) :
    (layout.earlier.all fun other => (other.read? {} (layout.sampleText places)).isNone) = true := by
  simp only [Date.recognisedLayouts, List.mem_cons, List.not_mem_nil, or_false] at listed
  rcases listed with rfl | rfl | rfl | rfl | rfl | rfl | rfl | rfl | rfl <;> rfl

/-- **No earlier layout captures a date.** -/
theorem parse?_earlier (spelled : layout.Spells date text) {other : Layout}
    (before : other ∈ layout.earlier) : other.parse? text = none := by
  have sampled : ∀ layout ∈ Date.recognisedLayouts, ∀ other ∈ layout.earlier,
      ∀ item ∈ other, item.isSampled = true := by
    decide
  obtain ⟨places, same⟩ := spelled.exists_sample (separated_of_mem listed)
  apply parse?_eq_none_of_sample (sampled layout listed other before)
  rw [same]
  exact List.all_eq_true.mp (isNone_read?_sampleText listed places) other before

end Layout

/-! ## Recognition -/

namespace Date

variable {value : String}

/-- A value is a date in a layout, at any time of the day and with blanks around it. -/
def WrittenIn (layout : Layout) (date : Date) (value : String) : Prop :=
  ∃ before text after, value.toList = before ++ (text ++ after) ∧ layout.Spells date text ∧
    (∀ c ∈ before, Text.isBlank c = true) ∧ ∀ c ∈ after, Text.isBlank c = true

/-- **A date written in a recognised layout is recognised as itself.** -/
theorem recognise?_of_writtenIn (listed : layout ∈ recognisedLayouts)
    (written : WrittenIn layout date value) : recognise? value = some date := by
  obtain ⟨before, text, after, split, spelled, blanksBefore, blanksAfter⟩ := written
  obtain ⟨first, last, head, getLast, noBlankFirst, noBlankLast⟩ := spelled.ends_noBlank listed
  have trimmed : Text.trimBoth value.toList = text := by
    rw [split]
    exact Text.trimBoth_append_append blanksBefore blanksAfter head getLast noBlankFirst noBlankLast
  have order : ∃ later, recognisedLayouts = layout.earlier ++ layout :: later := by
    simp only [recognisedLayouts, List.mem_cons, List.not_mem_nil, or_false] at listed
    rcases listed with rfl | rfl | rfl | rfl | rfl | rfl | rfl | rfl | rfl <;> exact ⟨_, rfl⟩
  obtain ⟨later, order⟩ := order
  unfold recognise?
  rw [trimmed]
  exact List.findSome?_eq_some_iff.mpr ⟨layout.earlier, layout, later, order,
    Layout.parse?_of_spells listed spelled, fun _ => Layout.parse?_earlier listed spelled⟩

end Date

end Reconciliation

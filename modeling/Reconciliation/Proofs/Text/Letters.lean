import Reconciliation.Proofs.Text.Case
import Reconciliation.Proofs.Text.Search

/-! # Words of small Latin letters

Lower case turns few characters into small Latin letters: the capital ones, the Kelvin sign and the
dotted capital I, and the latter leaves its dot behind. A word without `k` that does not end in `i`
therefore stands in the lower case of a text exactly where the text has its letters, small or
capital (`prefix_lowerFrom_iff`, `infix_lowerFrom_iff`). Upper case finds such a word wherever lower
case does (`infix_upper_of_infix_letters`), and in other places too: the dotless `ı` has the capital
`I` as well.
-/

namespace Reconciliation.Text

variable {part before cs : List Char} {c : Char}

/-- The characters of a text with the Latin letters among them in lower case. -/
def letters (text : String) : List Char :=
  text.toList.map Char.toLower

/-- A word that no other characters than its own letters, small or capital, are lowered to. -/
structure IsWord (part : List Char) : Prop where
  latin : ∀ c ∈ part, c.toNat < 0x80
  noKelvin : 'k' ∉ part
  noDot : part.getLast? ≠ some 'i'

theorem IsWord.tail (word : IsWord (c :: part)) : IsWord part where
  latin := fun d member => word.latin d (List.mem_cons_of_mem c member)
  noKelvin := fun member => word.noKelvin (List.mem_cons_of_mem c member)
  noDot := by
    cases part with
    | nil => nofun
    | cons d part =>
        rw [← List.getLast?_cons_cons]
        exact word.noDot

-- The letters are checked one by one, so that no instance goes through all characters.
instance (part : List Char) : Decidable (IsWord part) :=
  decidable_of_iff
    (part.all (·.toNat < 0x80) = true ∧ 'k' ∉ part ∧ part.getLast? ≠ some 'i')
    ⟨fun ⟨latin, noKelvin, noDot⟩ =>
        ⟨fun c member => of_decide_eq_true (List.all_eq_true.mp latin c member), noKelvin, noDot⟩,
      fun word => ⟨List.all_eq_true.mpr fun c member => decide_eq_true (word.latin c member),
        word.noKelvin, word.noDot⟩⟩

/-! ## Single characters -/

/-- What holds of each of the first characters holds of all of them. -/
theorem of_lt {P : Char → Prop} {bound : Nat} (each : ∀ code < bound, P (Char.ofNat code))
    (small : c.toNat < bound) : P c := by
  have known := each c.toNat small
  rwa [Char.ofNat_toNat] at known

theorem toNat_ofNat {code : Nat} (valid : code.isValidChar) : (Char.ofNat code).toNat = code := by
  rw [Char.ofNat, dif_pos valid]
  rfl

theorem toLower_of_beyond (beyond : 0x80 ≤ c.toNat) : c.toLower = c := by
  refine dif_neg fun capital => ?_
  have high : c.toNat ≤ 90 := capital.2
  omega

/-- A run starts from Latin letters, or leads beyond them, or from the Kelvin sign to `k`. -/
def CaseRun.avoidsLatin (run : CaseRun) : Bool :=
  run.last < 0x80 ||
    (0x80 ≤ run.first + run.shift && run.last + run.shift < 0x110000 &&
      (run.last + run.shift < 0xD800 || 0xE000 ≤ run.first + run.shift)) ||
    (run.first = run.last && run.first + run.shift = 'k'.toNat)

theorem avoidsLatin_lowerRuns : lowerRuns.all CaseRun.avoidsLatin = true := by
  decide +kernel

theorem CaseRun.beyond_or_k_of_convert? {run : CaseRun} (avoids : run.avoidsLatin = true)
    {code converted : Nat} (beyond : 0x80 ≤ code) (found : run.convert? code = some converted) :
    0x80 ≤ (Char.ofNat converted).toNat ∨ Char.ofNat converted = 'k' := by
  unfold convert? at found
  split at found
  · next inside =>
      obtain rfl := Option.some.inj found
      simp only [avoidsLatin, Bool.or_eq_true, Bool.and_eq_true, decide_eq_true_eq] at avoids
      rcases avoids with (latin | ⟨⟨low, high⟩, gap⟩) | ⟨single, kelvin⟩
      · omega
      · left
        have valid : (code + run.shift).toNat.isValidChar := by
          unfold Nat.isValidChar
          omega
        rw [toNat_ofNat valid]
        omega
      · right
        rw [show (code + run.shift).toNat = 'k'.toNat by omega]
        rfl
  · cases found

/-- A character beyond the Latin letters is lowered to such characters, but for two: one becomes
`k`, one `i` with something behind it. -/
theorem lowerChar_of_beyond (beyond : 0x80 ≤ c.toNat) :
    ∃ d others, lowerChar c = d :: others ∧ (∀ e ∈ others, 0x80 ≤ e.toNat) ∧
      (d.toNat < 0x80 → d = 'k' ∨ d = 'i' ∧ others ≠ []) := by
  unfold lowerChar
  rw [if_neg (Nat.not_lt.mpr beyond)]
  cases expanded : lowerExpansions.lookup c.toNat with
  | some codes =>
      obtain rfl : codes = [0x69, 0x307] := by
        rw [lowerExpansions, List.lookup_cons] at expanded
        split at expanded
        · exact (Option.some.inj expanded).symm
        · cases expanded
      have dot : ∀ e ∈ [Char.ofNat 0x307], 0x80 ≤ e.toNat := by
        intro e member
        rw [List.mem_singleton.mp member]
        exact Nat.le_of_ble_eq_true rfl
      exact ⟨'i', [Char.ofNat 0x307], rfl, dot, fun _ => .inr ⟨rfl, List.cons_ne_nil _ _⟩⟩
  | none =>
      cases found : lowerRuns.findSome? (·.convert? c.toNat) with
      | none =>
          exact ⟨c, [], rfl, List.forall_mem_nil _,
            fun latin => absurd latin (Nat.not_lt.mpr beyond)⟩
      | some code =>
          obtain ⟨run, member, found⟩ := List.exists_of_findSome?_eq_some found
          have avoids := List.all_eq_true.mp avoidsLatin_lowerRuns run member
          have converted := CaseRun.beyond_or_k_of_convert? avoids beyond found
          exact ⟨Char.ofNat code, [], rfl, List.forall_mem_nil _,
            fun latin => .inl (converted.resolve_left (Nat.not_le.mpr latin))⟩

/-! ## Lower case -/

theorem lowerFrom_cons_of_latin (latin : c.toNat < 0x80) :
    lowerFrom before (c :: cs) = c.toLower :: lowerFrom (c :: before) cs := by
  have noSigma : c ≠ 'Σ' := by
    rintro rfl
    exact absurd latin (by decide)
  rw [lowerFrom, if_neg noSigma, lowerChar, if_pos latin]
  rfl

theorem lowerFrom_cons_of_beyond (beyond : 0x80 ≤ c.toNat) :
    ∃ d others, lowerFrom before (c :: cs) = d :: (others ++ lowerFrom (c :: before) cs) ∧
      (∀ e ∈ others, 0x80 ≤ e.toNat) ∧ (d.toNat < 0x80 → d = 'k' ∨ d = 'i' ∧ others ≠ []) := by
  by_cases sigma : c = 'Σ'
  · rw [lowerFrom, if_pos sigma]
    refine ⟨_, [], rfl, List.forall_mem_nil _, ?_⟩
    intro latin
    split at latin <;> exact absurd latin (by decide)
  · obtain ⟨d, others, lowered, beyond, latin⟩ := lowerChar_of_beyond beyond
    refine ⟨d, others, ?_, beyond, latin⟩
    rw [lowerFrom, if_neg sigma, lowered]
    rfl

/-- The lower case of a text begins with a word exactly if the text begins with its letters. -/
theorem prefix_lowerFrom_iff (word : IsWord part) :
    part <+: lowerFrom before cs ↔ part <+: cs.map Char.toLower := by
  induction part generalizing before cs with
  | nil => simp
  | cons p part ih =>
      cases cs with
      | nil => simp [lowerFrom]
      | cons c cs =>
          have latin := word.latin p List.mem_cons_self
          rw [List.map_cons]
          rcases Nat.lt_or_ge c.toNat 0x80 with own | beyond
          · rw [lowerFrom_cons_of_latin own, List.cons_prefix_cons, List.cons_prefix_cons,
              ih word.tail]
          · obtain ⟨d, others, lowered, apart, exceptions⟩ := lowerFrom_cons_of_beyond beyond
            rw [lowered, toLower_of_beyond beyond]
            constructor
            · intro starts
              obtain ⟨rfl, goesOn⟩ := List.cons_prefix_cons.mp starts
              rcases exceptions latin with rfl | ⟨rfl, dotted⟩
              · exact absurd List.mem_cons_self word.noKelvin
              · -- behind this letter the word would have to go on with the dot
                obtain ⟨e, others, rfl⟩ := List.exists_cons_of_ne_nil dotted
                cases part with
                | nil => exact absurd rfl word.noDot
                | cons q part =>
                    obtain ⟨rfl, -⟩ := List.cons_prefix_cons.mp goesOn
                    exact absurd (word.tail.latin q List.mem_cons_self)
                      (Nat.not_lt.mpr (apart q List.mem_cons_self))
            · intro starts
              obtain ⟨rfl, -⟩ := List.cons_prefix_cons.mp starts
              exact absurd latin (Nat.not_lt.mpr beyond)

/-- A word occurs in the lower case of a text exactly if its letters occur in the text. -/
theorem infix_lowerFrom_iff (word : IsWord part) (nonempty : part ≠ []) :
    part <:+: lowerFrom before cs ↔ part <:+: cs.map Char.toLower := by
  induction cs generalizing before with
  | nil => rfl
  | cons c cs ih =>
      have later : part <:+: lowerFrom before (c :: cs) ↔
          part <+: lowerFrom before (c :: cs) ∨ part <:+: lowerFrom (c :: before) cs := by
        rcases Nat.lt_or_ge c.toNat 0x80 with latin | beyond
        · rw [lowerFrom_cons_of_latin latin, List.infix_cons_iff]
        · obtain ⟨d, others, lowered, apart, -⟩ := lowerFrom_cons_of_beyond beyond
          have apart : ∀ e ∈ others, e ∉ part := fun e behind inside =>
            absurd (word.latin e inside) (Nat.not_lt.mpr (apart e behind))
          rw [lowered, List.infix_cons_iff, infix_append_left_iff apart nonempty]
      rw [later, prefix_lowerFrom_iff word, ih, List.map_cons, List.infix_cons_iff]

theorem contains_lower_iff {text word : String} (isWord : IsWord word.toList)
    (nonempty : word.toList ≠ []) :
    contains (lower text) word = true ↔ word.toList <:+: letters text := by
  rw [contains, occursIn_iff_infix, toList_lower, infix_lowerFrom_iff isWord nonempty, letters]

theorem startsWith_lower_iff {text word : String} (isWord : IsWord word.toList) :
    startsWith (lower text) word = true ↔ word.toList <+: letters text := by
  rw [startsWith, isSome_afterPrefix?_iff, toList_lower, prefix_lowerFrom_iff isWord, letters]

/-! ## Upper case -/

theorem upperChar_of_latin (latin : c.toNat < 0x80) : upperChar c = [c.toLower.toUpper] :=
  of_lt (P := fun c => upperChar c = [c.toLower.toUpper]) (by decide +kernel) latin

/-- The capitals of a word occur in the upper case of a text in which its letters occur. -/
theorem contains_upper_of_infix_letters {text word : String} (isWord : IsWord word.toList)
    (occurs : word.toList <:+: letters text) :
    contains (upper text) (String.ofList (word.toList.map Char.toUpper)) = true := by
  obtain ⟨before, after, split⟩ := occurs
  obtain ⟨start, after', same, starts, -⟩ := List.map_eq_append_iff.mp split.symm
  obtain ⟨before', middle, rfl, -, spelled⟩ := List.map_eq_append_iff.mp starts
  have latin : ∀ c ∈ middle, c.toNat < 0x80 := by
    intro c member
    have small := isWord.latin c.toLower (spelled ▸ List.mem_map_of_mem member)
    apply Nat.lt_of_not_le
    intro beyond
    rw [toLower_of_beyond beyond] at small
    exact absurd beyond (Nat.not_le.mpr small)
  have capitals : middle.flatMap upperChar = word.toList.map Char.toUpper := by
    calc middle.flatMap upperChar
        = middle.flatMap fun c => [c.toLower.toUpper] :=
          List.flatMap_congr fun c member => upperChar_of_latin (latin c member)
      _ = middle.map fun c => c.toLower.toUpper := List.map_eq_flatMap.symm
      _ = word.toList.map Char.toUpper := by
          rw [← spelled, List.map_map]
          rfl
  rw [contains, occursIn_iff_infix, toList_upper, String.toList_ofList, same, List.flatMap_append,
    List.flatMap_append, capitals]
  exact ⟨_, _, rfl⟩

end Reconciliation.Text

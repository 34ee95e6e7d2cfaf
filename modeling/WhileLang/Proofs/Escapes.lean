import WhileLang.Text.Quoted

namespace WhileLang.Text

def hexValue (c : Char) : Nat :=
  if c.isDigit then c.toNat - '0'.toNat else c.toNat - 'a'.toNat + 10

def readHex (digits : List Char) : Nat :=
  digits.foldl (fun n c => 16 * n + hexValue c) 0

/-- Read what follows a backslash. -/
def readEscape : List Char → Option (Char × List Char)
  | [] => none
  | '0' :: cs => some ('\x00', cs)
  | 't' :: cs => some ('\t', cs)
  | 'r' :: cs => some ('\r', cs)
  | 'n' :: cs => some ('\n', cs)
  | 'u' :: '\x7b' :: cs =>
    some (.ofNat (readHex (cs.takeWhile (· ≠ '\x7d'))), (cs.dropWhile (· ≠ '\x7d')).tail)
  | c :: cs => some (c, cs)

/-- Read back the first character of an escaped text, and return what follows it. -/
def unescape : List Char → Option (Char × List Char)
  | [] => none
  | c :: cs => if c = '\\' then readEscape cs else some (c, cs)

theorem hexValue_digitChar {n : Nat} (h : n < 16) : hexValue n.digitChar = n := by
  have hall : ∀ k < 16, hexValue k.digitChar = k := by decide
  exact hall n h

theorem readHex_concat (digits : List Char) (c : Char) :
    readHex (digits ++ [c]) = 16 * readHex digits + hexValue c := by
  rw [readHex, List.foldl_append]
  rfl

theorem readHex_toDigits (n : Nat) : readHex (Nat.toDigits 16 n) = n := by
  induction n using Nat.strongRecOn with
  | ind n ih =>
    by_cases h : n < 16
    · rw [Nat.toDigits_of_lt_base h, ← List.nil_append [n.digitChar], readHex_concat,
        hexValue_digitChar h]
      exact Nat.zero_add n
    · have hlt : n / 16 < n := Nat.div_lt_self (by omega) (by decide)
      rw [Nat.toDigits_of_base_le (by decide) (Nat.le_of_not_lt h), readHex_concat, ih _ hlt,
        hexValue_digitChar (Nat.mod_lt n (by decide))]
      exact Nat.div_add_mod n 16

theorem eq_digitChar_of_mem {n : Nat} {c : Char} (h : c ∈ Nat.toDigits 16 n) :
    ∃ d < 16, c = Nat.digitChar d := by
  induction n using Nat.strongRecOn with
  | ind n ih =>
    by_cases hn : n < 16
    · rw [Nat.toDigits_of_lt_base hn] at h
      exact ⟨n, hn, List.mem_singleton.1 h⟩
    · have hlt : n / 16 < n := Nat.div_lt_self (by omega) (by decide)
      rw [Nat.toDigits_of_base_le (by decide) (Nat.le_of_not_lt hn)] at h
      rcases List.mem_append.1 h with h | h
      · exact ih _ hlt h
      · exact ⟨n % 16, Nat.mod_lt n (by decide), List.mem_singleton.1 h⟩

theorem ne_close_of_mem {n : Nat} {c : Char} (h : c ∈ Nat.toDigits 16 n) : c ≠ '\x7d' := by
  obtain ⟨d, -, rfl⟩ := eq_digitChar_of_mem h
  exact Nat.digitChar_ne _ rfl

theorem readEscape_digits (c : Char) (cs : List Char) :
    readEscape ('u' :: '\x7b' :: (Nat.toDigits 16 c.toNat ++ '\x7d' :: cs)) = some (c, cs) := by
  have hdigits : ∀ d ∈ Nat.toDigits 16 c.toNat, decide (d ≠ '\x7d') = true :=
    fun d hd => decide_eq_true (ne_close_of_mem hd)
  rw [readEscape, List.takeWhile_append_of_pos hdigits, List.dropWhile_append_of_pos hdigits]
  simp [readHex_toDigits, Char.ofNat_toNat]

theorem unescape_unicodeEscape (c : Char) (cs : List Char) :
    unescape (unicodeEscape c ++ cs) = some (c, cs) := by
  have htext : unicodeEscape c ++ cs =
      '\\' :: 'u' :: '\x7b' :: (Nat.toDigits 16 c.toNat ++ '\x7d' :: cs) := by
    simp [unicodeEscape]
  rw [htext, unescape, if_pos rfl]
  exact readEscape_digits c cs

theorem unescape_escape (c : Char) (cs : List Char) :
    unescape (escape c ++ cs) = some (c, cs) := by
  rw [escape.eq_def]
  split
  · rfl
  · rfl
  · rfl
  · rfl
  · rfl
  · rfl
  · rename_i hslash
    split
    · exact unescape_unicodeEscape c cs
    · exact if_neg hslash

theorem escape_append_inj {c d : Char} {cs ds : List Char}
    (h : escape c ++ cs = escape d ++ ds) : c = d ∧ cs = ds := by
  have hread := unescape_escape c cs
  rw [h, unescape_escape d ds] at hread
  cases hread
  exact ⟨rfl, rfl⟩

/-- A quote between the quotes stands behind a backslash, so that the first one that does not ends
the text. -/
theorem escape_append_ne (c : Char) (cs ds : List Char) : escape c ++ cs ≠ '"' :: ds := by
  intro h
  have hread := unescape_escape c cs
  rw [h, unescape, if_neg (by decide)] at hread
  cases hread
  cases h

theorem flatMap_escape_inj {s t cs ds : List Char}
    (h : s.flatMap escape ++ '"' :: cs = t.flatMap escape ++ '"' :: ds) : s = t ∧ cs = ds := by
  induction s generalizing t with
  | nil =>
    cases t with
    | nil =>
      cases h
      exact ⟨rfl, rfl⟩
    | cons d t =>
      rw [List.flatMap_cons, List.append_assoc] at h
      exact absurd h.symm (escape_append_ne d _ cs)
  | cons c s ih =>
    rw [List.flatMap_cons, List.append_assoc] at h
    cases t with
    | nil => exact absurd h (escape_append_ne c _ ds)
    | cons d t =>
      rw [List.flatMap_cons, List.append_assoc] at h
      obtain ⟨rfl, htail⟩ := escape_append_inj h
      obtain ⟨rfl, hrest⟩ := ih htail
      exact ⟨rfl, hrest⟩

theorem toList_quoted (s : String) : (quoted s).toList = '"' :: s.toList.flatMap escape ++ ['"'] :=
  String.toList_ofList

theorem quoted_append_inj {s t cs ds : String} (h : quoted s ++ cs = quoted t ++ ds) :
    s = t ∧ cs = ds := by
  have hchars := congrArg String.toList h
  simp only [String.toList_append, toList_quoted, List.cons_append, List.append_assoc,
    List.nil_append, List.cons.injEq, true_and] at hchars
  obtain ⟨hs, hcs⟩ := flatMap_escape_inj hchars
  exact ⟨String.toList_injective hs, String.toList_injective hcs⟩

/-- The characters of the general category Cc. -/
def isControl (c : Char) : Bool :=
  c.toNat < 0x20 || (0x7f ≤ c.toNat && c.toNat ≤ 0x9f)

def NoControls (s : String) : Prop :=
  ∀ c ∈ s.toList, isControl c = false

instance (s : String) : Decidable (NoControls s) :=
  List.decidableBAll (fun c => isControl c = false) s.toList

theorem NoControls.append {s t : String} (hs : NoControls s) (ht : NoControls t) :
    NoControls (s ++ t) := by
  intro c hc
  rw [String.toList_append] at hc
  rcases List.mem_append.1 hc with h | h
  · exact hs c h
  · exact ht c h

theorem isUnprintable_of_isControl {c : Char} (h : isControl c = true) :
    isUnprintable c = true := by
  simp only [isControl, Bool.or_eq_true, Bool.and_eq_true, decide_eq_true_eq] at h
  rcases h with h | ⟨hl, hu⟩
  · exact isUnprintable_of_lt h
  · exact isUnprintable_of_le hl (Nat.le_succ_of_le hu)

theorem isControl_digitChar {d : Nat} (h : d < 16) : isControl d.digitChar = false := by
  have hall : ∀ k < 16, isControl k.digitChar = false := by decide
  exact hall d h

theorem isControl_of_mem_unicodeEscape {c d : Char} (h : d ∈ unicodeEscape c) :
    isControl d = false := by
  simp only [unicodeEscape, List.cons_append, List.mem_cons, List.mem_append, List.not_mem_nil,
    or_false] at h
  rcases h with rfl | rfl | rfl | h | rfl
  · rfl
  · rfl
  · rfl
  · obtain ⟨k, hk, rfl⟩ := eq_digitChar_of_mem h
    exact isControl_digitChar hk
  · rfl

theorem isControl_of_mem_pair {c d : Char} (hc : isControl c = false) (h : d ∈ ['\\', c]) :
    isControl d = false := by
  rcases List.mem_cons.1 h with rfl | h
  · rfl
  · rw [List.mem_singleton.1 h]
    exact hc

theorem isControl_of_mem_escape {c d : Char} (h : d ∈ escape c) : isControl d = false := by
  rw [escape.eq_def] at h
  split at h
  · exact isControl_of_mem_pair rfl h
  · exact isControl_of_mem_pair rfl h
  · exact isControl_of_mem_pair rfl h
  · exact isControl_of_mem_pair rfl h
  · exact isControl_of_mem_pair rfl h
  · exact isControl_of_mem_pair rfl h
  · split at h
    · exact isControl_of_mem_unicodeEscape h
    · rename_i hc
      rw [List.mem_singleton.1 h]
      cases hcontrol : isControl c with
      | false => rfl
      | true =>
        have hprint := isUnprintable_of_isControl hcontrol
        simp [needsEscape, hprint] at hc

theorem noControls_quoted (s : String) : NoControls (quoted s) := by
  intro d hd
  rw [toList_quoted] at hd
  rcases List.mem_append.1 hd with h | h
  · rcases List.mem_cons.1 h with rfl | h
    · rfl
    · obtain ⟨c, -, hc⟩ := List.mem_flatMap.1 h
      exact isControl_of_mem_escape hc
  · rw [List.mem_singleton.1 h]
    rfl

end WhileLang.Text

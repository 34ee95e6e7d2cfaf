import WhileLang.Fault
import WhileLang.Proofs.Escapes
import WhileLang.Proofs.FirstLines

namespace WhileLang

theorem Text.NoControls.oneLine {s : String} (h : NoControls s) : OneLine s := by
  intro hmem
  cases h _ hmem

theorem getLast?_append_of_some {s t : String} {c : Char} (h : t.toList.getLast? = some c) :
    (s ++ t).toList.getLast? = some c := by
  rw [String.toList_append, List.getLast?_append, h, Option.some_or]

namespace Kind

/-- The last letter of its name, which tells it apart. -/
def ending : Kind → Char
  | int => 't'
  | bool => 'l'
  | undefined => 'd'

theorem ending_inj {k l : Kind} : k.ending = l.ending ↔ k = l := by
  cases k <;> cases l <;> decide

theorem ending_ne_quote (k : Kind) : k.ending ≠ '"' := by
  cases k <;> decide

theorem ending_ne_s (k : Kind) : k.ending ≠ 's' := by
  cases k <;> decide

theorem getLast?_text (k : Kind) : k.text.toList.getLast? = some k.ending := by
  cases k <;> rfl

theorem append_text_inj {s t : String} {k l : Kind} (h : s ++ k.text = t ++ l.text) :
    s = t ∧ k = l := by
  have hlast : some k.ending = some l.ending := by
    rw [← getLast?_append_of_some k.getLast?_text, h, getLast?_append_of_some l.getLast?_text]
  obtain rfl := ending_inj.1 (Option.some.inj hlast)
  exact ⟨(String.append_left_inj _).1 h, rfl⟩

theorem noControls_text (k : Kind) : Text.NoControls k.text := by
  cases k <;> decide

end Kind

namespace Fault

/-- The last character of the message. Only two kinds of faults share it. -/
def ending : Fault → Char
  | undeclared _ => '"'
  | kindMismatch _ _ received => received.ending
  | nonBoolean _ received => received.ending
  | emptySequence => 's'

theorem getLast?_message (f : Fault) : f.message.toList.getLast? = some f.ending := by
  cases f with
  | undeclared x =>
    apply getLast?_append_of_some
    rw [Text.toList_quoted]
    exact List.getLast?_concat
  | kindMismatch x expected received => exact getLast?_append_of_some received.getLast?_text
  | nonBoolean construct received => exact getLast?_append_of_some received.getLast?_text
  | emptySequence => rfl

theorem ending_eq {a b : Fault} (h : a.message = b.message) : a.ending = b.ending := by
  have hlast := a.getLast?_message
  rw [h, b.getLast?_message] at hlast
  exact (Option.some.inj hlast).symm

/-- Before the word `received` there is a colon in one message and a comma in the other, whatever
the construct is called. -/
theorem message_nonBoolean_ne {construct x : String} {received expected received' : Kind} :
    (nonBoolean construct received).message ≠ (kindMismatch x expected received').message := by
  intro h
  obtain ⟨hfront, -⟩ := Kind.append_text_inj h
  have hcolon : " condition is not a boolean: received " =
      " condition is not a boolean:" ++ " received " := rfl
  have hcomma : ", received " = "," ++ " received " := rfl
  rw [hcolon, hcomma, ← String.append_assoc, ← String.append_assoc] at hfront
  have hlast := congrArg (fun s => s.toList.getLast?) ((String.append_left_inj _).1 hfront)
  have hleft : (construct ++ " condition is not a boolean:").toList.getLast? = some ':' :=
    getLast?_append_of_some rfl
  cases (hleft.symm.trans hlast).trans (getLast?_append_of_some rfl)

theorem kindMismatch_eq_of_message_eq {x y : String} {expected received expected' received' : Kind}
    (h : (kindMismatch x expected received).message =
      (kindMismatch y expected' received').message) :
    kindMismatch x expected received = kindMismatch y expected' received' := by
  obtain ⟨hfront, rfl⟩ := Kind.append_text_inj h
  obtain ⟨hquoted, rfl⟩ := Kind.append_text_inj ((String.append_left_inj _).1 hfront)
  simp only [String.append_assoc, String.append_right_inj] at hquoted
  obtain ⟨rfl, -⟩ := Text.quoted_append_inj hquoted
  rfl

theorem undeclared_eq_of_message_eq {x y : String}
    (h : (undeclared x).message = (undeclared y).message) : undeclared x = undeclared y := by
  have hquoted : Text.quoted x ++ "" = Text.quoted y ++ "" :=
    congrArg (· ++ "") ((String.append_right_inj _).1 h)
  obtain ⟨rfl, -⟩ := Text.quoted_append_inj hquoted
  rfl

theorem nonBoolean_eq_of_message_eq {construct construct' : String} {received received' : Kind}
    (h : (nonBoolean construct received).message = (nonBoolean construct' received').message) :
    nonBoolean construct received = nonBoolean construct' received' := by
  obtain ⟨hfront, rfl⟩ := Kind.append_text_inj h
  rw [(String.append_left_inj _).1 hfront]

theorem eq_of_message_eq {a b : Fault} (h : a.message = b.message) : a = b := by
  have hending := ending_eq h
  cases a with
  | undeclared x =>
    cases b with
    | undeclared y => exact undeclared_eq_of_message_eq h
    | kindMismatch y expected received => exact absurd hending.symm received.ending_ne_quote
    | nonBoolean construct received => exact absurd hending.symm received.ending_ne_quote
    | emptySequence => cases hending
  | kindMismatch x expected received =>
    cases b with
    | undeclared y => exact absurd hending received.ending_ne_quote
    | kindMismatch y expected' received' => exact kindMismatch_eq_of_message_eq h
    | nonBoolean construct received' => exact absurd h.symm message_nonBoolean_ne
    | emptySequence => exact absurd hending received.ending_ne_s
  | nonBoolean construct received =>
    cases b with
    | undeclared y => exact absurd hending received.ending_ne_quote
    | kindMismatch y expected received' => exact absurd h message_nonBoolean_ne
    | nonBoolean construct' received' => exact nonBoolean_eq_of_message_eq h
    | emptySequence => exact absurd hending received.ending_ne_s
  | emptySequence =>
    cases b with
    | undeclared y => cases hending
    | kindMismatch y expected received => exact absurd hending.symm received.ending_ne_s
    | nonBoolean construct received => exact absurd hending.symm received.ending_ne_s
    | emptySequence => rfl

/-- The fault of an assignment that has no effect. -/
def IsAssignment : Fault → Prop
  | undeclared _ => True
  | kindMismatch _ _ _ => True
  | nonBoolean _ _ => False
  | emptySequence => False

theorem IsAssignment.noControls {f : Fault} (h : f.IsAssignment) :
    Text.NoControls f.message := by
  cases f with
  | undeclared x =>
    have hwords : Text.NoControls "assignment to undeclared variable " := by decide
    exact hwords.append (Text.noControls_quoted x)
  | kindMismatch x expected received =>
    have hfront : Text.NoControls "assignment to " := by decide
    have hexpected : Text.NoControls " changes its kind: expected " := by decide
    have hreceived : Text.NoControls ", received " := by decide
    apply Text.NoControls.append _ received.noControls_text
    apply Text.NoControls.append _ hreceived
    apply Text.NoControls.append _ expected.noControls_text
    exact (hfront.append (Text.noControls_quoted x)).append hexpected
  | nonBoolean construct received => exact h.elim
  | emptySequence => exact h.elim

/-- A message is that of one fault only, whatever the variables and the constructs are called. That
of an assignment has no control character in it and is one line. -/
theorem message_unambiguous :
    (∀ a b : Fault, a.message = b.message → a = b) ∧
    ∀ f : Fault, f.IsAssignment →
      (∀ c ∈ f.message.toList, Text.isControl c = false) ∧
        Text.firstLine f.message = f.message := by
  constructor
  · intro a b h
    exact eq_of_message_eq h
  · intro f h
    exact ⟨h.noControls, Text.firstLine_of_oneLine h.noControls.oneLine⟩

/-- A combining accent is not the name that spells its escape, and a name with a quote and a line
feed does not end the message. -/
theorem message_unambiguous_lookalikes :
    (undeclared "e\u0301").message ≠ (undeclared "e\\u\x7b301\x7d").message ∧
      (undeclared "x\" changes its kind: expected Int, received Bool").message ≠
        (kindMismatch "x" .int .bool).message ∧
      (nonBoolean "assignment to \"x\" changes its kind: expected Int, received Bool\nif"
        .bool).message ≠ (kindMismatch "x" .int .bool).message ∧
      IsAssignment (.undeclared "x\"\n\x7f") ∧
      (∀ c ∈ (undeclared "x\"\n\x7f").message.toList, Text.isControl c = false) ∧
      Text.firstLine (undeclared "x\"\n\x7f").message = (undeclared "x\"\n\x7f").message := by
  obtain ⟨hinj, hline⟩ := message_unambiguous
  refine ⟨?_, ?_, ?_, trivial, hline _ trivial⟩
  · intro h
    have hnames := undeclared.inj (hinj _ _ h)
    exact absurd hnames (by decide)
  · intro h
    cases hinj _ _ h
  · intro h
    cases hinj _ _ h

end Fault

end WhileLang

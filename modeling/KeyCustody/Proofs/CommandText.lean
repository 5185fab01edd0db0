import KeyCustody.Command
import KeyCustody.Proofs.Quoting

/-!
What a command looks like in a message. A quoted argument ends at its closing quote and any other
where the next blank is.
-/
namespace KeyCustody

namespace Command

section Arguments

theorem any_isBlank_eq_false_iff (cs : List Char) :
    cs.any Text.isBlank = false ↔ ∀ c ∈ cs, Text.isBlank c = false := by
  simp only [List.any_eq_false, Bool.not_eq_true]

/-- An argument without blanks does not begin with a quote. -/
def Recognizable (argument : String) : Prop :=
  (∀ c ∈ argument.toList, Text.isBlank c = false) → argument.toList.head? ≠ some '"'

theorem recognizable_iff (argument : String) :
    Recognizable argument ↔
      argument.toList.any Text.isBlank = true ∨ argument.toList.head? ≠ some '"' := by
  unfold Recognizable
  rw [← any_isBlank_eq_false_iff, ← Bool.not_eq_true]
  exact Decidable.or_iff_not_imp_left.symm

instance (argument : String) : Decidable (Recognizable argument) :=
  decidable_of_iff _ (recognizable_iff argument).symm

def AtBreak (rest : List Char) : Prop :=
  ∀ c ∈ rest.head?, Text.isBlank c = true

theorem shown_cases (argument : String) :
    (showArgument argument).toList = Text.quoted Text.isObscure argument.toList ∨
      (∀ c ∈ argument.toList, Text.isBlank c = false) ∧ showArgument argument = argument := by
  unfold showArgument
  cases blank : argument.toList.any Text.isBlank with
  | true =>
    left
    rw [if_pos rfl, Text.quote, String.toList_ofList]
  | false => exact .inr ⟨(any_isBlank_eq_false_iff _).mp blank, if_neg Bool.false_ne_true⟩

/-- What stands unquoted does not begin like what is quoted. -/
theorem not_quoted_of_plain {argument : String} {inside x y : List Char}
    (recognizable : Recognizable argument)
    (plain : ∀ c ∈ argument.toList, Text.isBlank c = false) (stops : AtBreak y) :
    Text.quoted Text.isObscure inside ++ x ≠ argument.toList ++ y := by
  intro same
  have first : (argument.toList ++ y).head? = some '"' := by rw [← same]; rfl
  cases form : argument.toList with
  | nil =>
    rw [form, List.nil_append] at first
    exact absurd (stops '"' first) (by decide)
  | cons c rest =>
    rw [form, List.cons_append, List.head?_cons] at first
    apply recognizable plain
    rw [form, List.head?_cons, first]

theorem shown_append_inj {argument other : String} {x y : List Char}
    (clear : Recognizable argument) (clearOther : Recognizable other) (stops : AtBreak x)
    (stopsOther : AtBreak y)
    (same : (showArgument argument).toList ++ x = (showArgument other).toList ++ y) :
    argument = other ∧ x = y := by
  rcases shown_cases argument with quoted | ⟨plain, shown⟩
  · rcases shown_cases other with quotedOther | ⟨plainOther, shownOther⟩
    · rw [quoted, quotedOther] at same
      obtain ⟨inside, rest⟩ := Text.endsItself_quoted _ _ _ _ _ same
      exact ⟨String.toList_inj.mp inside, rest⟩
    · rw [quoted, shownOther] at same
      exact absurd same (not_quoted_of_plain clearOther plainOther stopsOther)
  · rcases shown_cases other with quotedOther | ⟨plainOther, shownOther⟩
    · rw [shown, quotedOther] at same
      exact absurd same.symm (not_quoted_of_plain clear plain stops)
    · rw [shown, shownOther] at same
      obtain ⟨inside, rest⟩ := Text.append_inj_of_stop Text.isBlank plain plainOther stops
        stopsOther same
      exact ⟨String.toList_inj.mp inside, rest⟩

def shownArguments (arguments : List String) : List Char :=
  arguments.flatMap fun argument => ' ' :: (showArgument argument).toList

theorem atBreak_shownArguments (arguments : List String) : AtBreak (shownArguments arguments) := by
  intro c first
  cases arguments with
  | nil => cases first
  | cons argument rest =>
    obtain rfl : ' ' = c := Option.some.inj first
    decide

theorem toList_display (c : Command) :
    c.display.toList = c.program.toList ++ shownArguments c.arguments := by
  rw [display, String.toList_append, String.toList_join, List.flatMap_map]
  simp [shownArguments]

theorem shownArguments_inj {arguments others : List String}
    (clear : ∀ argument ∈ arguments, Recognizable argument)
    (clearOthers : ∀ argument ∈ others, Recognizable argument)
    (same : shownArguments arguments = shownArguments others) : arguments = others := by
  induction arguments generalizing others with
  | nil =>
    cases others with
    | nil => rfl
    | cons other others => cases same
  | cons argument arguments ih =>
    cases others with
    | nil => cases same
    | cons other others =>
      rw [List.forall_mem_cons] at clear clearOthers
      have tail : (showArgument argument).toList ++ shownArguments arguments =
          (showArgument other).toList ++ shownArguments others := (List.cons.inj same).2
      obtain ⟨rfl, rest⟩ := shown_append_inj clear.1 clearOthers.1
        (atBreak_shownArguments arguments) (atBreak_shownArguments others) tail
      rw [ih clear.2 clearOthers.2 rest]

end Arguments

section Lines
variable {c d : Command}

/-- Two commands of one program look alike only if they are one command. -/
theorem display_identifies (program : c.program = d.program)
    (clear : ∀ argument ∈ c.arguments, Recognizable argument)
    (clearOther : ∀ argument ∈ d.arguments, Recognizable argument) :
    c.display = d.display ↔ c.arguments = d.arguments := by
  rw [← String.toList_inj, toList_display, toList_display, program, List.append_cancel_left_eq]
  exact ⟨shownArguments_inj clear clearOther, congrArg shownArguments⟩

def describing : Command := ⟨"aws", ["--description", "Key \"A\"\u00a0\\"]⟩

def describingMore : Command := ⟨"aws", describing.arguments ++ [""]⟩

theorem display_identifies_emptyArgument :
    describing.program = describingMore.program ∧
      (∀ argument ∈ describing.arguments, Recognizable argument) ∧
      (∀ argument ∈ describingMore.arguments, Recognizable argument) ∧
      describing.display ≠ describingMore.display := by
  have program : describing.program = describingMore.program := rfl
  have clear : ∀ argument ∈ describing.arguments, Recognizable argument := by decide
  have clearMore : ∀ argument ∈ describingMore.arguments, Recognizable argument := by decide
  refine ⟨program, clear, clearMore, fun same => ?_⟩
  have arguments := (display_identifies program clear clearMore).mp same
  exact absurd arguments (by decide)

-- Without that condition an argument may pass for a part of another one.
example : display ⟨"aws", ["\"a", "b\""]⟩ = display ⟨"aws", ["a b"]⟩ := by decide +kernel

end Lines

end Command

end KeyCustody

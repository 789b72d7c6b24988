import HeartbeatMesh.Proofs.Text.Words
import HeartbeatMesh.Shell.Session
import Mathlib.Data.String.Basic
import Mathlib.Logic.Function.Defs

/-!
# The language of the shell

A line says what its words say. The words are those of a command (`Command.spellings`), or they are
those of a command with more behind them, or they do not begin as a command does, or there are too
few (`Command.Reading`). These cases leave nothing out (`reading_ofWords`) and exclude each other
(`Reading.eq_ofWords`), so which lines are commands and which error the others get is read off the
cases.
-/

namespace HeartbeatMesh.Shell

variable {words spelling rest : List String} {word : String} {command : Command}
  {answer : Except CommandError Command}

/-! ## Errors and their texts -/

namespace CommandError

theorem message_unknown (word : String) : (unknown word).message = "Unknown command: " ++ word :=
  rfl

theorem message_ne_message_unknown {e : CommandError} (word : String)
    (h : e.message.toList.head? ≠ some 'U') : e.message ≠ (unknown word).message := by
  intro heq
  rw [heq, message_unknown, String.toList_append] at h
  exact h rfl

/-- The text of an error tells which error it is. -/
theorem message_injective : Function.Injective message := by
  intro e e' h
  cases e with
  | unknown word =>
    cases e' with
    | unknown word' =>
      rw [message_unknown, message_unknown, String.append_right_inj] at h
      rw [h]
    | _ => exact absurd h.symm (message_ne_message_unknown word (by decide))
  | _ =>
    cases e' with
    | unknown word => exact absurd h (message_ne_message_unknown word (by decide))
    | _ =>
      revert h
      decide

end CommandError

/-! ## The language -/

/-- The words that say a command, in each way there is to say it. -/
def Command.spellings : Command → List (List String)
  | add => [["add"]]
  | remove nodeId => [["remove", nodeId]]
  | list => [["list"]]
  | status => [["status"]]
  | help => [["help"]]
  | quit => [["quit"], ["exit"]]

/-- The words that commands begin with. -/
def keywords : List String := ["add", "remove", "list", "status", "help", "quit", "exit"]

namespace Command

/-- The words of a command begin with a keyword and are read as the command, behind which there may
be nothing else. -/
theorem ofWords_append (h : spelling ∈ command.spellings) (rest : List String) :
    (∃ keyword ∈ keywords, spelling.head? = some keyword) ∧
      ofWords (spelling ++ rest) = command.alone rest := by
  cases command with
  | quit =>
    rcases List.mem_pair.mp h with rfl | rfl
    · exact ⟨⟨"quit", by decide, rfl⟩, rfl⟩
    · exact ⟨⟨"exit", by decide, rfl⟩, rfl⟩
  | _ =>
    obtain rfl := List.mem_singleton.mp h
    exact ⟨⟨_, by decide, rfl⟩, rfl⟩

/-- What words are, and the answer that they get. -/
inductive Reading : List String → Except CommandError Command → Prop
  | empty : Reading [] (.error .empty)
  | missingId : Reading ["remove"] (.error .missingId)
  | said {command : Command} {spelling : List String} (h : spelling ∈ command.spellings) :
      Reading spelling (.ok command)
  | tooMany {command : Command} {spelling : List String} (h : spelling ∈ command.spellings)
      (word : String) (rest : List String) :
      Reading (spelling ++ word :: rest) (.error .tooManyArguments)
  | unknown {word : String} (h : word ∉ keywords) (rest : List String) :
      Reading (word :: rest) (.error (.unknown word))

theorem reading_alone (h : spelling ∈ command.spellings) (rest : List String) :
    Reading (spelling ++ rest) (command.alone rest) := by
  cases rest with
  | nil =>
    rw [List.append_nil]
    exact .said h
  | cons word rest => exact .tooMany h word rest

theorem reading_ofWords (words : List String) : Reading words (ofWords words) := by
  unfold ofWords
  split
  · exact .empty
  · exact reading_alone (show ["add"] ∈ spellings .add by decide) _
  · exact .missingId
  · next nodeId rest =>
    exact reading_alone (show ["remove", nodeId] ∈ spellings (.remove nodeId) by simp [spellings]) _
  · exact reading_alone (show ["list"] ∈ spellings .list by decide) _
  · exact reading_alone (show ["status"] ∈ spellings .status by decide) _
  · exact reading_alone (show ["help"] ∈ spellings .help by decide) _
  · exact reading_alone (show ["quit"] ∈ spellings .quit by decide) _
  · exact reading_alone (show ["exit"] ∈ spellings .quit by decide) _
  · next word rest hadd hmissing hremove hlist hstatus hhelp hquit hexit =>
    have hword : word ≠ "remove" := by
      intro hword
      cases rest with
      | nil => exact hmissing hword rfl
      | cons nodeId rest => exact hremove nodeId rest hword rfl
    exact .unknown (by simp_all [keywords]) rest

/-- Words that begin with no keyword say nothing. -/
theorem Reading.eq_unknown (h : Reading words answer) (hhead : words.head? = some word)
    (hword : word ∉ keywords) : answer = .error (.unknown word) := by
  cases h with
  | empty => cases hhead
  | missingId =>
    obtain rfl : "remove" = word := Option.some.inj hhead
    exact absurd (by decide) hword
  | said h =>
    obtain ⟨⟨keyword, hkeyword, hfirst⟩, -⟩ := ofWords_append h []
    rw [hfirst] at hhead
    exact absurd (Option.some.inj hhead ▸ hkeyword) hword
  | tooMany h word' rest =>
    obtain ⟨⟨keyword, hkeyword, hfirst⟩, -⟩ := ofWords_append h []
    rw [List.head?_append, hfirst] at hhead
    exact absurd (Option.some.inj hhead ▸ hkeyword) hword
  | unknown h rest =>
    obtain rfl := Option.some.inj hhead
    rfl

/-- Words are read in one way only. -/
theorem Reading.eq_ofWords (h : Reading words answer) : answer = ofWords words := by
  cases h with
  | empty => rfl
  | missingId => rfl
  | said h => rw [← List.append_nil words, (ofWords_append h []).2, alone]
  | tooMany h word rest => rw [(ofWords_append h (word :: rest)).2, alone]
  | unknown h rest => exact ((reading_ofWords _).eq_unknown rfl h).symm

theorem ofWords_eq_iff : ofWords words = answer ↔ Reading words answer :=
  ⟨fun h ↦ h ▸ reading_ofWords words, fun h ↦ h.eq_ofWords.symm⟩

/-! ## The cases, one by one -/

theorem ofWords_eq_ok_iff : ofWords words = .ok command ↔ words ∈ command.spellings := by
  rw [ofWords_eq_iff]
  constructor
  · rintro (_ | _ | h)
    exact h
  · exact .said

theorem ofWords_eq_empty_iff : ofWords words = .error .empty ↔ words = [] := by
  rw [ofWords_eq_iff]
  constructor
  · rintro ⟨⟩
    rfl
  · rintro rfl
    exact .empty

theorem ofWords_eq_missingId_iff : ofWords words = .error .missingId ↔ words = ["remove"] := by
  rw [ofWords_eq_iff]
  constructor
  · rintro ⟨⟩
    rfl
  · rintro rfl
    exact .missingId

theorem ofWords_eq_unknown_iff :
    ofWords words = .error (.unknown word) ↔ words.head? = some word ∧ word ∉ keywords := by
  constructor
  · intro h
    cases ofWords_eq_iff.mp h with
    | unknown hword rest => exact ⟨rfl, hword⟩
  · rintro ⟨hhead, hword⟩
    exact (reading_ofWords words).eq_unknown hhead hword

/-- Words are too many if they are nothing else. -/
theorem ofWords_eq_tooMany_iff :
    ofWords words = .error .tooManyArguments ↔
      (∀ command : Command, words ∉ command.spellings) ∧ words ≠ [] ∧ words ≠ ["remove"] ∧
        ∀ word, words.head? = some word → word ∈ keywords := by
  constructor
  · intro h
    refine ⟨fun command hsaid ↦ ?_, fun hempty ↦ ?_, fun hmissing ↦ ?_, fun word hhead ↦ ?_⟩
    · rw [← ofWords_eq_ok_iff, h] at hsaid
      cases hsaid
    · rw [← ofWords_eq_empty_iff, h] at hempty
      cases hempty
    · rw [← ofWords_eq_missingId_iff, h] at hmissing
      cases hmissing
    · by_contra hword
      have hunknown := ofWords_eq_unknown_iff.mpr ⟨hhead, hword⟩
      rw [h] at hunknown
      cases hunknown
  · rintro ⟨hsaid, hempty, hmissing, hknown⟩
    cases h : ofWords words with
    | ok command => exact absurd (ofWords_eq_ok_iff.mp h) (hsaid command)
    | error e =>
      cases e with
      | empty => exact absurd (ofWords_eq_empty_iff.mp h) hempty
      | missingId => exact absurd (ofWords_eq_missingId_iff.mp h) hmissing
      | unknown word =>
        obtain ⟨hhead, hword⟩ := ofWords_eq_unknown_iff.mp h
        exact absurd (hknown word hhead) hword
      | tooManyArguments => rfl

/-! ## Lines -/

/-- **Which lines are commands.** The words of a line are the only ones that it is laid out as, with
any blanks before, between and behind them.

* The line is a command if and only if its words are one of `add`, `list`, `status`, `help`, `quit`
  and `exit`, or `remove` and one more word. It is the command of this name, which `exit` shares
  with `quit`, and the word behind `remove` is the id.
* The line is empty if and only if it has no words, an id is missing if and only if `remove` is all
  that it says, and its first word is unknown if and only if no command begins with this word. In
  all other cases it has too many words.
* These errors can be told apart by their texts, they are shown as failures of a command, and the
  session stays as it is.
* Every line that is laid out as the same words is read in the same way. -/
theorem language_of_parse (line : String) :
    let words := Text.words line
    (∀ ws, Text.IsSpaced line ws ↔ ws = words) ∧
      (∀ command, parse line = .ok command ↔ words ∈ command.spellings) ∧
      (parse line = .error .empty ↔ words = []) ∧
      (parse line = .error .missingId ↔ words = ["remove"]) ∧
      (∀ word, parse line = .error (.unknown word) ↔ words.head? = some word ∧ word ∉ keywords) ∧
      (parse line = .error .tooManyArguments ↔
        (∀ command : Command, words ∉ command.spellings) ∧ words ≠ [] ∧ words ≠ ["remove"] ∧
          ∀ word, words.head? = some word → word ∈ keywords) ∧
      Function.Injective CommandError.message ∧
      (∀ e, parse line = .error e → ∀ {γ : Type} (s : Session γ) (origin : Float),
        s.interpret origin line = (.error (.command e.message), s)) ∧
      ∀ line', Text.IsSpaced line' words → parse line' = parse line := by
  intro words
  refine ⟨fun ws ↦ ?_, fun _ ↦ ofWords_eq_ok_iff, ofWords_eq_empty_iff, ofWords_eq_missingId_iff,
    fun _ ↦ ofWords_eq_unknown_iff, ofWords_eq_tooMany_iff, CommandError.message_injective,
    fun e he γ s origin ↦ ?_, fun line' hline' ↦ ?_⟩
  · rw [Text.isSpaced_iff, eq_comm]
  · rw [Session.interpret, he]
  · rw [parse, parse, Text.isSpaced_iff.mp hline']

/-- Blanks of any kind are blanks, wherever they stand. -/
theorem language_of_parse_wideBlanks :
    let line := "\u00a0remove\u2003n1\u3000"
    Text.words line = ["remove", "n1"] ∧ parse line = .ok (.remove "n1") ∧
      Text.IsSpaced "remove n1" (Text.words line) ∧ parse "remove n1" = parse line := by
  intro line
  have hwords : Text.words line = ["remove", "n1"] := by decide +kernel
  have hplain : Text.IsSpaced "remove n1" (Text.words line) := by
    rw [Text.isSpaced_iff]
    decide +kernel
  obtain ⟨-, hsaid, -, -, -, -, -, -, hsame⟩ := language_of_parse line
  refine ⟨hwords, ?_, hplain, hsame "remove n1" hplain⟩
  rw [hsaid, hwords]
  exact List.mem_singleton_self _

end Command

end HeartbeatMesh.Shell

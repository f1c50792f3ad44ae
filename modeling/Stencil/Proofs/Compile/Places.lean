import Stencil.Proofs.Reading.Append
import Stencil.Proofs.Scan.Problems
import Stencil.Template.Compile

/-!
# Where reading a source stops

Reading stops at a token that it was given, whether it looks at the token, has just taken it or went
back to it, or it stops at the end.  In a source whose scan has no problems a token stands behind
the texts of the tokens before it, so an error of reading names a piece of the source and its line.
-/

namespace Stencil

open Grammar

variable {source : String} {tokens : List Token} {options : CompileOptions} {error : ParseError}

/-- A fault at one of the tokens, or at the end. -/
def Fault.IsAmong (tokens : List Token) (fault : Fault) : Prop :=
  ∀ token ∈ fault.token?, token ∈ tokens

theorem Fault.IsAmong.atToken {token : Token} {cause : ParseError.Cause} (member : token ∈ tokens) :
    IsAmong tokens ⟨some token, cause⟩ := by
  intro other isToken
  cases isToken
  exact member

theorem Fault.IsAmong.atEnd {cause : ParseError.Cause} : IsAmong tokens ⟨none, cause⟩ := by
  intro other isToken
  cases isToken

/-- Reading stops at a token before the end of the source, or at the end. -/
theorem Template.exists_fault_of_parse (stopped : parse tokens options = .error error) :
    ∃ fault : Fault, fault.IsAmong (Token.beforeEnd tokens) ∧
      error = fault.toError (Token.endLine tokens) :=
  Likeness.exists_fault_of_parse (fun _ member => member) (fun member _ => .atToken member)
    .atToken (fun _ => .atEnd) stopped

/-- A token of a scan, and where it stands in the source: behind the texts of the tokens before it,
on the line that they lead to. -/
structure Token.StandsIn (source : String) (before : List Token) (token : Token)
    (after : List Token) : Prop where
  found : (Token.scan source).tokens = before ++ token :: after
  kind_ne : token.kind ≠ .endMark
  split : source.toList = Token.source before ++ token.lexeme.toList ++ Token.source after
  line_eq : token.line = 1 + (Token.source before).count '\n'

namespace Token

theorem source_filterMap_token? {pieces : List Piece}
    (clean : ∀ piece ∈ pieces, piece.problem? = none) :
    Token.source (pieces.filterMap Piece.token?) = pieces.flatMap Piece.text :=
  flatMap_text_of_problem?_eq_none clean

theorem Cuts.kind_ne_endMark {line : Nat} {text : List Char} {pieces : List Piece}
    (cuts : Cuts line text pieces) :
    ∀ token ∈ pieces.filterMap Piece.token?, token.kind ≠ .endMark := by
  intro token isIn
  exact cuts.inner token (mem_pieces_of_mem isIn)

/-- In a source without problems, every token before the end has a place. -/
theorem exists_standsIn {token : Token} (clean : (scan source).errors = [])
    (isIn : token ∈ beforeEnd (scan source).tokens) :
    ∃ before after, token.StandsIn source before after := by
  rcases exists_cuts_findings .plain 1 source.toList with ⟨pieces, last, cuts, isFound, _⟩
  rcases scan_of_findings isFound with ⟨found, errors⟩
  rw [found, beforeEnd_append cuts.kind_ne_endMark rfl] at isIn
  rw [errors, List.append_eq_nil_iff, List.filterMap_eq_nil_iff] at clean
  rcases List.append_of_mem (mem_pieces_of_mem isIn) with ⟨before, after, rfl⟩
  have isToken : (Piece.token token).token? = some token := rfl
  rw [List.filterMap_append, List.filterMap_cons_some isToken] at found
  have cleanBefore : ∀ piece ∈ before, piece.problem? = none := by
    intro piece member
    exact clean.1 piece (List.mem_append_left _ member)
  have cleanAfter : ∀ piece ∈ after, piece.problem? = none := by
    intro piece member
    exact clean.1 piece (List.mem_append_right _ (List.mem_cons_of_mem _ member))
  refine ⟨before.filterMap Piece.token?,
    after.filterMap Piece.token? ++ [atEnd (lastLine source.toList)], ?_⟩
  exact {
    found := by rw [found, List.append_assoc, List.cons_append]
    kind_ne := cuts.kind_ne_endMark token isIn
    split := by
      rw [← cuts.whole, source_append, source_filterMap_token? cleanBefore,
        source_filterMap_token? cleanAfter, List.flatMap_append, List.flatMap_cons]
      simp [Piece.text, atEnd]
    line_eq := by
      rw [source_filterMap_token? cleanBefore]
      exact cuts.numbered before (.token token) after rfl }

theorem endLine_scan (source : String) :
    endLine (scan source).tokens = 1 + source.toList.count '\n' := by
  rcases exists_cuts_findings .plain 1 source.toList with ⟨pieces, last, cuts, isFound, _⟩
  rcases scan_of_findings isFound with ⟨found, _⟩
  rw [found, endLine_append cuts.kind_ne_endMark ⟨_, List.mem_singleton_self _, rfl⟩]
  rfl

end Token

theorem Template.compile_eq_parseError
    (failed : compile source options = .error (.parse error)) :
    (Token.scan source).errors = [] ∧
      parse (Token.scan source).tokens options = .error error := by
  simp only [compile, List.isEmpty_iff] at failed
  by_cases clean : (Token.scan source).errors = []
  · rw [if_pos clean] at failed
    refine ⟨clean, ?_⟩
    revert failed
    cases parse (Token.scan source).tokens options <;> simp [Except.mapError]
  · rw [if_neg clean] at failed
    cases failed

/-- An error of reading is at the end of the source, on its last line, or it names a token where
that token stands in the source, with the line there. -/
theorem Template.exists_place_of_compile
    (failed : compile source options = .error (.parse error)) :
    (error.location = .sourceEnd ∧ error.line = 1 + source.toList.count '\n') ∨
      ∃ before token after, Token.StandsIn source before token after ∧
        error.location = .token token.lexeme ∧
        error.line = 1 + (Token.source before).count '\n' := by
  rcases compile_eq_parseError failed with ⟨clean, stopped⟩
  rcases exists_fault_of_parse stopped with ⟨⟨token?, cause⟩, isAmong, rfl⟩
  cases token? with
  | none => exact .inl ⟨rfl, Token.endLine_scan source⟩
  | some token =>
      rcases Token.exists_standsIn clean (isAmong token rfl) with ⟨before, after, stands⟩
      exact .inr ⟨before, token, after, stands, rfl, stands.line_eq⟩

/-- A tag that is closed under another name on the line after it. -/
def misnamedSource : String :=
  "{{x}}<b>\n</i>"

/-- The error is at the name, which was taken before it is found to be another one. -/
theorem Template.exists_place_of_compile_misnamedSource :
    compile misnamedSource ⟨true, 8⟩ = .error (.parse ⟨2, .token "i", .tagMismatch "b" "i"⟩) ∧
      ∃ before token after, Token.StandsIn misnamedSource before token after ∧
        "i" = token.lexeme ∧ 2 = 1 + (Token.source before).count '\n' := by
  have clean : (Token.scan misnamedSource).errors = [] := by decide +kernel
  have found : (Token.scan misnamedSource).tokens =
      [(.mustacheOpen, r"{{", 1), (.identifier, "x", 1), (.mustacheClose, r"}}", 1),
        (.less, "<", 1), (.identifier, "b", 1), (.greater, ">", 1), (.newline, "\n", 1),
        (.tagClose, "</", 2), (.identifier, "i", 2), (.greater, ">", 2),
        (.endMark, "", 2)].map fun entry =>
          { kind := entry.1, lexeme := entry.2.1, line := entry.2.2 } := by
    decide +kernel
  have failed : compile misnamedSource ⟨true, 8⟩ =
      .error (.parse ⟨2, .token "i", .tagMismatch "b" "i"⟩) := by
    unfold compile
    simp only [clean, found]
    rfl
  refine ⟨failed, ?_⟩
  rcases exists_place_of_compile failed with ⟨atEnd, _⟩ | ⟨before, token, after, stands, isAt, line⟩
  · cases atEnd
  · exact ⟨before, token, after, stands, ParseError.Location.token.inj isAt, line⟩

end Stencil

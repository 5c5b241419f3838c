import Lexis.CommandLine.Run
import Lexis.Proofs.Excerpts
import Mathlib.Data.List.Forall2

/-!
# What a scan has to say

A scan lists its tokens, and each malformed one is explained on its way through a
counter to a printer.  The listing, the explanations and the count come from three
places; here they are all read off the tokens.  What holds them together is that no
malformed token goes unreported: only an unexpected character without a text would,
and such a token is never read.

## Main definitions

* `Diagnostic.Describes` — a report tells what a malformed token is.

## Main results

* `TokenStream.listing_eq` — the listing has one row for each token.
* `TokenStream.forall₂_reports` — there is one report for each malformed token, in the
  order of the tokens, and it tells what the token is.
* `TokenStream.tokenize_reports` — what the handler of a scan receives.
* `Report.opening_ofFile`, `Report.closing_ofFile`, `Report.isClean_ofFile` — what is
  said before and behind the listing, and whether it is a success.
-/

namespace Lexis

open Console (Message)

/-! ## One row for each token -/

/-- The line of the listing for a token. -/
def Token.row (t : Token) : String :=
  toString t.location.line ++ ":" ++ toString t.location.column ++ "\t" ++
    ("Token(" ++ t.kind.name ++ ", " ++ t.text ++ ")") ++ "\n"

theorem TokenStream.listing_eq (s : TokenStream) :
    s.listing = String.join (s.toList.map Token.row) := rfl

/-! ## One report for each malformed token -/

/-- The report `d` tells what the malformed token `t` is: the defect, the place, and all
of the text, which only the report on a comment leaves out. -/
inductive Diagnostic.Describes : Diagnostic → Token → Prop where
  | unterminatedComment (place : Location) (text : String) :
      Describes (.unterminatedComment place) ⟨.invalid .unterminatedComment, text, place⟩
  | unterminatedString (place : Location) (content : String) :
      Describes (.unterminatedString place content)
        ⟨.invalid .unterminatedString, content, place⟩
  | malformedCharacter (place : Location) (content : String) :
      Describes (.malformedCharacter place content)
        ⟨.invalid .malformedCharacter, content, place⟩
  | unexpectedCharacter (place : Location) (c : Char) :
      Describes (.unexpectedCharacter place c)
        ⟨.invalid .unexpectedCharacter, String.ofList [c], place⟩

/-- The token `t` is reported, and the report `d` tells what it is. -/
def Diagnostic.Reports (d : Diagnostic) (t : Token) : Prop :=
  ofToken? t = some d ∧ d.Describes t

open Grammar in
/-- Whatever is read as malformed is reported.  An unexpected character is read with a
text of one character, so there is one to report. -/
theorem Grammar.Reads.exists_reports {l : Lexeme} {rest : List Char} (h : Reads l rest)
    (hinvalid : l.kind.isInvalid = true) (place : Location) :
    ∃ d : Diagnostic, d.Reports (l.token place) := by
  cases h with
  | malformed hstop => exact ⟨_, rfl, .malformedCharacter place _⟩
  | malformedEnd => exact ⟨_, rfl, .malformedCharacter place _⟩
  | unterminatedString hbody => exact ⟨_, rfl, .unterminatedString place _⟩
  | unterminatedComment cs => exact ⟨_, rfl, .unterminatedComment place _⟩
  | @unexpected c _ hstart hpair =>
      refine ⟨.unexpectedCharacter place c, ?_, .unexpectedCharacter place c⟩
      simp only [Diagnostic.ofToken?, Lexeme.token, String.toList_ofList]
      rfl
  | word hw hstop =>
      rw [isInvalid_wordKind] at hinvalid
      exact absurd hinvalid Bool.false_ne_true
  | endOfInput | integer | float | character | string | pair | single =>
      exact absurd hinvalid Bool.false_ne_true

/-- Every malformed token that a step finds is reported. -/
theorem Cursor.exists_reports_next (c : Cursor) (h : c.next.1.isInvalid = true) :
    ∃ d : Diagnostic, d.Reports c.next.1 := by
  obtain ⟨t, l, rest, hstep⟩ := c.exists_steps
  rw [hstep.next_eq] at h ⊢
  exact hstep.reads.exists_reports h _

/-- Every malformed token of a text is reported. -/
theorem Cursor.exists_reports_of_mem {c : Cursor} {t : Token} (ht : t ∈ c.tokens)
    (h : t.isInvalid = true) : ∃ d : Diagnostic, d.Reports t := by
  obtain ⟨_, d, t', l, rest, -, hstep, rfl⟩ := exists_walk_of_mem ht
  exact hstep.reads.exists_reports h _

/-- Where a partial map is defined on the members of a class, with values related to them,
and on no others, its values are those of the class, one for each. -/
private theorem forall₂_filterMap {α β : Type} {f : α → Option β} {p : α → Bool}
    {R : β → α → Prop} {l : List α} (hdefined : ∀ a ∈ l, p a = true → ∃ b, f a = some b ∧ R b a)
    (hundefined : ∀ a ∈ l, p a = false → f a = none) :
    List.Forall₂ (fun b a => f a = some b ∧ R b a) (l.filterMap f) (l.filter p) := by
  induction l with
  | nil => exact .nil
  | cons a l ih =>
      have htail := ih (fun b hb => hdefined b (List.mem_cons_of_mem a hb))
        (fun b hb => hundefined b (List.mem_cons_of_mem a hb))
      cases hpa : p a with
      | true =>
          obtain ⟨b, hfa, hR⟩ := hdefined a List.mem_cons_self hpa
          rw [List.filterMap_cons_some hfa, List.filter_cons_of_pos hpa]
          exact .cons ⟨hfa, hR⟩ htail
      | false =>
          have hfa := hundefined a List.mem_cons_self hpa
          rw [List.filterMap_cons_none hfa, List.filter_cons_of_neg (Bool.eq_false_iff.mp hpa)]
          exact htail

namespace TokenStream

/-- The reports on a text are those on its malformed tokens, in their order. -/
theorem forall₂_reports (source : String) :
    List.Forall₂ Diagnostic.Reports (ofString source).diagnostics
      ((ofString source).toList.filter Token.isInvalid) :=
  forall₂_filterMap (fun _ ht hinvalid => Cursor.exists_reports_of_mem ht hinvalid)
    (fun _ _ hvalid => Diagnostic.ofToken?_eq_none hvalid)

theorem map_diagnostics (source : String) :
    (ofString source).diagnostics.map some =
      ((ofString source).toList.filter Token.isInvalid).map Diagnostic.ofToken? := by
  rw [← List.forall₂_eq_eq_eq, List.forall₂_map_left_iff, List.forall₂_map_right_iff]
  exact (forall₂_reports source).imp fun _ _ h => h.1.symm

theorem length_diagnostics (source : String) :
    (ofString source).diagnostics.length = (ofString source).toList.countP Token.isInvalid := by
  rw [(forall₂_reports source).length_eq, List.countP_eq_length_filter]

/-- The reports are in the order of their places, as the tokens are. -/
theorem pairwise_location_diagnostics (source : String) :
    (ofString source).diagnostics.Pairwise fun d e => compare d.location e.location = .lt := by
  rw [diagnostics, List.pairwise_filterMap]
  refine (Cursor.pairwise_location_tokens (.ofString source)).imp ?_
  intro t u hlt d hd e he
  rw [Diagnostic.location_of_ofToken? hd, Diagnostic.location_of_ofToken? he]
  exact hlt

/-- **Reports.**  Every malformed token that a scanner can return is reported, and the
report tells what the token is.  A scan sends its handler the reports on the malformed
tokens of the stream and nothing else, in the order of the tokens, which is that of their
places: a counter counts as many, and a storage holds them as they came. -/
theorem tokenize_reports (source : String) :
    (∀ s token, Scanner.Reachable source s → token = s.next.1 ∨ s.next?.1 = some token →
        token.isInvalid = true → ∃ d : Diagnostic, d.Reports token) ∧
      ∃ ds : List Diagnostic,
        List.Forall₂ Diagnostic.Reports ds
          ((ofString source).toList.filter Token.isInvalid) ∧
        ds.Pairwise (fun d e => compare d.location e.location = .lt) ∧
        (∀ {H : Type} [Handler H Diagnostic] (handler : H),
          tokenize source handler = (ofString source, ds.foldl Handler.receive handler)) ∧
        (∀ {H : Type} [Handler H Diagnostic] (counter : Counter H),
          (tokenize source counter).2.count =
            counter.count + (ofString source).toList.countP Token.isInvalid) ∧
        ∀ storage : Storage Diagnostic,
          (tokenize source storage).2.toList = storage.toList ++ ds := by
  constructor
  · intro s token _ hreturned hinvalid
    have htoken : token = s.next.1 := hreturned.elim id Scanner.eq_of_next?
    subst htoken
    exact s.cursor.exists_reports_next hinvalid
  · refine ⟨(ofString source).diagnostics, forall₂_reports source,
      pairwise_location_diagnostics source, tokenize_eq source, ?_, ?_⟩
    · intro H _ counter
      rw [tokenize_eq, Counter.foldl_receive, length_diagnostics]
    · intro storage
      rw [tokenize_eq, storage.toList_foldl_receive]

/-- A space that is none of the language, a quote that closes nothing, and a comment that
never ends. -/
theorem tokenize_reports_space :
    let s := (Scanner.ofString "\u00a0x'é/*\n").next?.2.next.2
    Scanner.Reachable "\u00a0x'é/*\n" s ∧ s.next?.1 = some s.next.1 ∧
      s.next.1.isInvalid = true ∧ (∃ d : Diagnostic, d.Reports s.next.1) ∧
      ∃ ds : List Diagnostic, ds.length = 3 ∧
        ∀ storage : Storage Diagnostic,
          (tokenize "\u00a0x'é/*\n" storage).2.toList = storage.toList ++ ds := by
  intro s
  have hstart : Scanner.Reachable "\u00a0x'é/*\n" (.ofString _) := .start
  have hinvalid : s.next.1.isInvalid = true := by decide +kernel
  have hcount : (ofString "\u00a0x'é/*\n").toList.countP Token.isInvalid = 3 := by
    decide +kernel
  obtain ⟨hreturned, ds, hds, -, -, -, hstorage⟩ := tokenize_reports "\u00a0x'é/*\n"
  refine ⟨hstart.next?.next, by decide +kernel, hinvalid, ?_, ds, ?_, hstorage⟩
  · exact hreturned s s.next.1 hstart.next?.next (.inl rfl) hinvalid
  · rw [hds.length_eq, ← List.countP_eq_length_filter, hcount]

end TokenStream

/-! ## The texts of a scan -/

/-- What a printer has received is written down. -/
theorem Printer.foldl_receive (p : Printer) (ds : List Diagnostic) :
    ds.foldl Handler.receive p =
      { file := p.file, output := p.output ++ String.join (ds.map p.file.explain) } := by
  induction ds generalizing p with
  | nil =>
      rw [List.map_nil, String.join_nil, String.append_empty]
      rfl
  | cons d ds ih =>
      rw [List.foldl_cons, ih, List.map_cons, String.join_cons, ← String.append_assoc]
      rfl

/-- The text that shows a diagnostic, with all of its escape sequences. -/
theorem SourceFile.explain_eq (f : SourceFile) (d : Diagnostic) :
    f.explain d = d.message.printed ++ (f.excerptOf d).printed ++ "\n" := by
  rw [explain, Message.logged_eq, Excerpt.render_eq]

namespace Report

open TokenStream (ofString)

variable (verbose : Bool) (f : SourceFile)

/-- What the reports on a source file say: for each its message and the excerpt to which
it points, and an empty line. -/
def explanations (f : SourceFile) : String :=
  String.join ((ofString f.content).diagnostics.map fun d =>
    d.message.printed ++ (f.excerptOf d).printed ++ "\n")

theorem join_map_explain :
    String.join ((ofString f.content).diagnostics.map f.explain) = explanations f := by
  rw [explanations, funext f.explain_eq]

/-- What a message adds to the log. -/
theorem logLine_eq (severity : Console.Severity) (text : String) :
    logLine verbose severity text =
      if isLogged verbose severity then Message.printed ⟨severity, text⟩ else "" := by
  rw [logLine, Message.logged_eq]

theorem opening_ofFile : (ofFile verbose f).opening =
    (if verbose then Message.printed ⟨.debug, f.description⟩ else "") ++ explanations f ++
      (if verbose then
        Message.printed ⟨.info, s!"scanned {(ofString f.content).length} tokens"⟩
      else "") := by
  simp only [ofFile, TokenStream.tokenize_eq, Counter.foldl_receive, Printer.foldl_receive,
    String.empty_append, join_map_explain, logLine_eq, isLogged]
  rfl

theorem listing_ofFile : (ofFile verbose f).listing =
    String.join ((ofString f.content).toList.map Token.row) := by
  rw [ofFile, TokenStream.tokenize_eq, TokenStream.listing_eq]

theorem isClean_ofFile : (ofFile verbose f).isClean =
    ((ofString f.content).toList.countP Token.isInvalid == 0) := by
  simp only [ofFile, TokenStream.tokenize_eq, Counter.foldl_receive, Printer.foldl_receive,
    Counter.isClean, TokenStream.length_diagnostics, Nat.zero_add]

theorem closing_ofFile : (ofFile verbose f).closing =
    if (ofString f.content).toList.countP Token.isInvalid = 0 then ""
    else Message.printed ⟨.warning,
      s!"found {(ofString f.content).toList.countP Token.isInvalid} invalid token(s)"⟩ := by
  simp only [ofFile, TokenStream.tokenize_eq, Counter.foldl_receive, Printer.foldl_receive,
    Counter.isClean, TokenStream.length_diagnostics, Nat.zero_add, beq_iff_eq, logLine_eq,
    isLogged, if_true]

end Report

end Lexis

import PocketCalc.Calculator
import PocketCalc.Journal.Line

/-! # What the calculator tells

For every operation of the calculator this file says which lines it adds to the journal, as a
function of the state before the operation.

* **`Buffer.journal`**, **`evaluationJournal`** — typing a symbol, evaluating a text.
* **`History.loadJournal`**, **`History.recordJournal`** and others — changes of the history.
* **`Calculator.journal`** — any operation of the calculator. -/

namespace PocketCalc

open Journal

/-! ## Faults in the journal's words -/

/-- The journal's word for a fault of form. -/
def SyntaxError.word : SyntaxError → List Char
  | unexpected character => "CaractereInattendu(".toList ++ quotedChar character ++ [')']
  | badNumeral text => "NombreInvalide(".toList ++ quoted text ++ [')']
  | unopened => "FermanteOrpheline".toList
  | unclosed => "NonFermee".toList
  | missingOperand => "OperandeManquant".toList
  | notOneValue => "ExpressionInvalide".toList

/-- The journal's word for a verdict. -/
def EvalError.word : EvalError → List Char
  | malformed cause => "Malforme(".toList ++ cause.word ++ [')']
  | unbalanced => "Desequilibre".toList
  | incomplete => "Incomplet".toList
  | arithmetic => "Arithmetique".toList

/-- The journal's word for a command. -/
def Command.word : Command → List Char
  | symbol character => "Symbole(".toList ++ quotedChar character ++ [')']
  | clear => "Effacer".toList
  | backspace => "SupprimerDernier".toList
  | evaluate => "Evaluer".toList
  | toggleSign => "BasculerSigne".toList

/-! ## Typing and evaluating -/

/-- What typing a symbol tells: the text afterwards, or why the symbol is refused. -/
def Buffer.journal (buffer : Buffer) (symbol : Char) : List Line :=
  match buffer.add symbol with
  | (.ok (), next) =>
    [⟨.trace, .buffer, "symbole admis",
      [.shown "symbole" [plain symbol], .shown "tampon" next.text]⟩]
  | (.error refusal, _) =>
    [⟨.trace, .buffer, "symbole refusé",
      [.shown "symbole" [plain symbol], .shown "tampon" buffer.text,
        .shown "refus" refusal.message.toList]⟩]

/-- What computing a normalized text tells: its tokens, their postfix order and the tree, if the
text is an expression. -/
def computeJournal (normalized : List Char) : List Line :=
  let line : Except SyntaxError Line := do
    let tokens ← Token.scan normalized
    let ordered ← toPostfix tokens
    let expr ← Expression.ofPostfix ordered
    return ⟨.debug, .evaluation, "expression analysée",
      [.shown "jetons" (Token.list tokens), .shown "rpn" (Token.list ordered),
        .shown "arbre" expr.text]⟩
  line.toOption.toList

/-- What evaluating a text tells. -/
def evaluationJournal (text : List Char) : List Line :=
  match prepare text with
  | .ok (some normalized) =>
    computeJournal normalized ++
      match compute normalized with
      | .ok value =>
        if value.isFinite then []
        else
          [⟨.debug, .evaluation, "résultat non fini",
            [.shown "expression" text, .shown "valeur" value.text]⟩]
      | .error _ => []
  | _ => []

/-! ## The history -/

namespace History

/-- What saving tells: nothing, unless it fails. -/
def saveJournal (history : History) : List Line :=
  match history.save.1 with
  | .ok () => []
  | .error _ =>
    [⟨.warning, .history, "sauvegarde de l’historique impossible",
      [.shown "cle" history.key, .withheld "erreur"]⟩]

/-- What loading a stored history tells: nothing, unless it cannot be read. -/
def loadJournal (storage : Storage) (key : List Char) : List Line :=
  match storedEntries storage key with
  | .ok _ => []
  | .error _ =>
    [⟨.warning, .history, "historique illisible, on repart de zéro",
      [.shown "cle" (quoted key), .withheld "erreur"]⟩]

/-- What recording an evaluation tells. -/
def recordJournal (history : History) (entry : Entry) : List Line :=
  ⟨.info, .history, "évaluation enregistrée",
    [.shown "expression" entry.expression, .shown "resultat" entry.result]⟩ ::
      (history.recorded entry).saveJournal

/-- What removing an entry tells. -/
def removeJournal (history : History) (index : Nat) : List Line :=
  (if index < history.entries.length then
    [⟨.info, .history, "entrée d’historique supprimée",
      [.shown "index" (Nat.toDigits 10 index)]⟩]
  else []) ++ (history.removed index).saveJournal

/-- What removing all entries tells. -/
def clearJournal (history : History) : List Line :=
  ⟨.info, .history, "historique vidé", []⟩ :: history.cleared.saveJournal

end History

/-! ## The calculator -/

namespace Calculator

/-- What starting a calculator tells. -/
def startJournal (settings : Settings) (storage : Storage) : List Line :=
  History.loadJournal storage settings.historyKey

/-- What evaluating the buffer tells. -/
def evaluateJournal (calculator : Calculator) (now : Timestamp) : List Line :=
  evaluationJournal calculator.buffer.text ++
    match PocketCalc.evaluate calculator.buffer.text with
    | .error verdict =>
      [⟨.debug, .calculator, "évaluation refusée",
        [.shown "expression" calculator.buffer.text, .shown "erreur" verdict.word]⟩]
    | .ok none => []
    | .ok (some result) => calculator.history.recordJournal ⟨calculator.buffer.text, result, now⟩

/-- What a command tells. -/
def executeJournal (calculator : Calculator) (now : Timestamp) : Command → List Line
  | .symbol character => calculator.buffer.journal character
  | .evaluate => calculator.evaluateJournal now
  | _ => []

/-- What reloading an entry tells: nothing, unless its expression is too long. -/
def reloadJournal (calculator : Calculator) (index : Nat) : List Line :=
  match calculator.history.entries[index]? with
  | none => []
  | some entry =>
    if entry.expression.length ≤ calculator.buffer.limit then []
    else
      [⟨.warning, .calculator, "entrée trop longue, non rechargée",
        [.shown "index" (Nat.toDigits 10 index),
          .shown "longueur" (Nat.toDigits 10 (byteCount entry.expression))]⟩]

/-- **What an operation tells.** -/
def journal (calculator : Calculator) (now : Timestamp) : CalculatorOperation → List Line
  | .command command => calculator.executeJournal now command
  | .reload index => calculator.reloadJournal index
  | .remove index => calculator.history.removeJournal index
  | .clearHistory => calculator.history.clearJournal

end Calculator

end PocketCalc

import PocketCalc.Journal.Filter
import PocketCalc.Journal.Panel
import PocketCalc.Session

/-! # What a session tells

The start of a session is told in the order in which it happens: settings, storage, stored history.

* **`Session.startJournal`** — the lines of a start.
* **`Session.filter`** — which lines a session shows. -/

namespace PocketCalc

open Journal

/-- The journal's words for settings. -/
def Settings.word (settings : Settings) : List Char :=
  "Reglages \x7b longueur_max: ".toList ++ Nat.toDigits 10 settings.maxLength
    ++ ", historique_max: ".toList ++ Nat.toDigits 10 settings.maxEntries
    ++ ", cle_historique: ".toList ++ quoted settings.historyKey
    ++ ", delai_flash_ms: ".toList ++ Nat.toDigits 10 settings.flashDelay ++ " \x7d".toList

/-- What reading the settings tells. -/
def SettingsSource.journal : SettingsSource → List Line
  | unset => []
  | file path content =>
    match fileSettings? content with
    | some settings =>
      [⟨.info, .program, "réglages chargés",
        [.shown "chemin" path, .shown "r" settings.word]⟩]
    | none =>
      [⟨.warning, .program, "réglages ignorés, valeurs par défaut",
        [.shown "chemin" path, .withheld "erreur"]⟩]

/-- What choosing the storage tells. -/
def Surroundings.storageJournal (surroundings : Surroundings) : List Line :=
  match surroundings.folder with
  | some (path, _) =>
    [⟨.info, .program, "historique sur disque", [.shown "dossier" (quoted path)]⟩]
  | none =>
    [⟨.warning, .program, "aucun dossier de données : historique en mémoire seulement", []⟩]

namespace Session

/-- **What the start of a session tells**: about settings, storage and stored history, in this
order. -/
def startJournal (surroundings : Surroundings) : List Line :=
  surroundings.settings.journal ++ surroundings.storageJournal ++
    Calculator.startJournal surroundings.settings.settings surroundings.storage

/-- The verbosity of a journal that no filter is set for. -/
def standardVerbosity : Nat := 3

/-- The filter of a session: the one that is set, if it can be read, and else the standard one. -/
def filter (text : Option (List Char)) : Filter :=
  (text.bind Filter.parse).getD (Filter.upTo standardVerbosity)

end Session

end PocketCalc

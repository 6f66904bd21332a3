import EntityModel.Csdl.Document
import EntityModel.SourceFile
import EntityModel.Vocabulary.Capabilities

/-!
# Loading vocabularies

A vocabulary is a service document of which only the terms are needed. It comes from a file, or it is the
vocabulary of capabilities that belongs to the installation. Whatever is wrong with it is a fault of the
configuration and not of the metadata, unless it is one that nobody foresaw.
-/

namespace EntityModel.Vocabulary

open Edm (Graph)

/-- The name of the file of the vocabulary of capabilities. -/
def bundledName : String := Capabilities.space ++ ".xml"

/-- The terms among the needed ones that a vocabulary does not define. -/
def missingTerms (g : Graph) (needed : List String) : List String :=
  needed.filter fun t => (g.term? t).isNone

/-- The vocabulary, if it defines all needed terms. -/
def requireTerms (g : Graph) (name : String) (needed : List String) :
    Except (Mishap ConfigurationFault) Graph :=
  let missing := missingTerms g needed
  if missing.isEmpty then .ok g else .error (.foreseen (.vocabularyIncomplete name missing))

/-- The vocabulary in a file. -/
def readFile (file : SourceFile) : Except (Mishap ConfigurationFault) Graph :=
  match file.content with
  | .missing | .unreachable | .directory => .error (.foreseen (.vocabularyUnreadable file.name))
  | .bytes content =>
      (Csdl.readDocument content).mapError (Mishap.map (.vocabularyUnusable file.name))

/-- Loads a vocabulary from a file. -/
def load (file : SourceFile) (needed : List String) : Except (Mishap ConfigurationFault) Graph := do
  let g ← readFile file
  requireTerms g file.name needed

/-- Loads a vocabulary of capabilities: from a file if one is given, otherwise the one of the
installation. -/
def loadCapabilities (file : Option SourceFile) (needed : List String) :
    Except (Mishap ConfigurationFault) Graph :=
  match file with
  | some f => load f needed
  | none => requireTerms Capabilities.graph bundledName needed

end EntityModel.Vocabulary

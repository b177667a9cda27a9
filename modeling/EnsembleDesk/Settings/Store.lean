import EnsembleDesk.Json.Basic
/-!
# Settings

The host keeps settings as JSON values under the names of sections. A section that is absent or
malformed counts as one with the defaults (`Settings.read`).
-/

namespace EnsembleDesk

/-- The sections of the settings. -/
structure Settings where
  /-- The values of the sections. -/
  sections : List (String × Json)
deriving Inhabited

namespace Settings

/-- Settings without sections. -/
def empty : Settings := ⟨[]⟩

/-- The value of a section. -/
def get? (settings : Settings) (name : String) : Option Json := settings.sections.lookup name

/-- Stores the value of a section. -/
def set (settings : Settings) (name : String) (value : Json) : Settings :=
  ⟨insertMember name value.settled settings.sections⟩

/-- Reads a section; the default if it is absent or malformed. -/
def read {α : Type} (settings : Settings) (name : String) (default : α)
    (read? : Json → Option α) : α :=
  ((settings.get? name).bind read?).getD default

end Settings

end EnsembleDesk

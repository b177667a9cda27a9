import EnsembleDesk.Assist.Completion
import EnsembleDesk.Density.Plot
import EnsembleDesk.Json.Record
import EnsembleDesk.Settings.Store
/-!
# Settings of the services

What the user can choose about completion and plots, as the section `ert.services` of the settings.
-/

namespace EnsembleDesk

/-- The name of a theme in settings. -/
def PlotTheme.name : PlotTheme → String
  | light => "light"
  | dark => "dark"

/-- The theme of a name. -/
def PlotTheme.ofName? (name : String) : Option PlotTheme :=
  [PlotTheme.light, .dark].find? fun theme => theme.name == name

/-- Reads what the user chose about completion. -/
def CompletionOptions.ofJson? (value : Json) : Option CompletionOptions := do
  let record ← value.record? ["snippets"]
  let snippets ← record.defaulted? "snippets" true Json.bool?
  some ⟨snippets⟩

/-- Reads what the user chose about plots. -/
def PlotOptions.ofJson? (value : Json) : Option PlotOptions := do
  let record ← value.record? ["width", "height", "theme", "samples"]
  let width ← record.defaulted? "width" 235 fun v => v.word?.map Fin.val
  let height ← record.defaulted? "height" 235 fun v => v.word?.map Fin.val
  let theme ← record.defaulted? "theme" .light fun v => v.variantName?.bind PlotTheme.ofName?
  let samples ← record.defaulted? "samples" 100 Json.count?
  some ⟨width, height, theme, samples⟩

/-- What the user can choose about the services. -/
structure ServiceOptions where
  /-- Completion. -/
  completion : CompletionOptions := {}
  /-- Plots. -/
  plot : PlotOptions := {}
deriving DecidableEq, Inhabited

namespace ServiceOptions

/-- The section of the settings. -/
def sectionName : String := "ert.services"

/-- Reads a section. -/
def ofJson? (value : Json) : Option ServiceOptions := do
  let record ← value.record? ["completion", "plot"]
  let completion ← record.defaulted? "completion" {} CompletionOptions.ofJson?
  let plot ← record.defaulted? "plot" {} PlotOptions.ofJson?
  some ⟨completion, plot⟩

/-- The options as a section. -/
def toJson (options : ServiceOptions) : Json :=
  .object [
    ("completion", .object [("snippets", .bool options.completion.snippets)]),
    ("plot", .object [("width", .ofNat options.plot.width), ("height", .ofNat options.plot.height),
      ("theme", .string options.plot.theme.name), ("samples", .ofNat options.plot.samples)])]

/-- Reads the options from the settings. -/
def ofSettings (settings : Settings) : ServiceOptions := settings.read sectionName {} ofJson?

/-- Stores the options in the settings. -/
def store (options : ServiceOptions) (settings : Settings) : Settings :=
  settings.set sectionName options.toJson

end ServiceOptions

end EnsembleDesk

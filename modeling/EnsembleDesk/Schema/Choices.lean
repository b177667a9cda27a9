import EnsembleDesk.Schema.Basic
/-!
# Closed sets of words

The words that a configuration accepts in places where only a few are meaningful: boolean literals,
queue systems and their options, hook points, transformations, summary vectors. Membership is
always exact, case included.
-/

namespace EnsembleDesk

namespace Schema

/-- The accepted spellings of boolean literals. -/
def booleanLiterals : List String :=
  ["TRUE", "True", "true", "FALSE", "False", "false"]

/-- The spellings of boolean literals as choices of a parameter. -/
def booleanChoices : List Choice :=
  [⟨"TRUE", "Enable."⟩,
   ⟨"True", "Enable."⟩,
   ⟨"true", "Enable."⟩,
   ⟨"FALSE", "Disable."⟩,
   ⟨"False", "Disable."⟩,
   ⟨"false", "Disable."⟩]

/-- The queue systems that can run the forward models. -/
def queueSystems : List String :=
  ["LSF", "LOCAL", "TORQUE", "SLURM"]

/-- The queue systems as choices of a parameter. -/
def queueSystemChoices : List Choice :=
  [⟨"LSF", "Submit realizations to an IBM Spectrum LSF cluster."⟩,
   ⟨"LOCAL", "Run realizations as processes on the local machine."⟩,
   ⟨"TORQUE", "Submit realizations through a Torque/PBS queue."⟩,
   ⟨"SLURM", "Submit realizations to a Slurm cluster."⟩]

/-- The options of the LSF queue. -/
def lsfQueueOptions : List String :=
  ["LSF_QUEUE", "LSF_RESOURCE", "LSF_SERVER", "BSUB_CMD", "BJOBS_CMD", "BKILL_CMD", "BHIST_CMD",
   "BJOBS_TIMEOUT", "EXCLUDE_HOST", "PROJECT_CODE", "SUBMIT_SLEEP", "DEBUG_OUTPUT", "MAX_RUNNING"]

/-- The options of the Slurm queue. -/
def slurmQueueOptions : List String :=
  ["SBATCH", "SCANCEL", "SCONTROL", "SQUEUE", "PARTITION", "MEMORY", "MEMORY_PER_CPU",
   "EXCLUDE_HOST", "INCLUDE_HOST", "MAX_RUNTIME", "SQUEUE_TIMEOUT", "PROJECT_CODE", "MAX_RUNNING"]

/-- The options of the Torque queue. -/
def torqueQueueOptions : List String :=
  ["QSUB_CMD", "QSTAT_CMD", "QDEL_CMD", "QSTAT_OPTIONS", "QUEUE", "CLUSTER_LABEL", "NUM_NODES",
   "NUM_CPUS_PER_NODE", "MEMORY_PER_JOB", "KEEP_QSUB_OUTPUT", "JOB_PREFIX", "SUBMIT_SLEEP",
   "DEBUG_OUTPUT", "PROJECT_CODE", "MAX_RUNNING"]

/-- The options of the local queue. -/
def localQueueOptions : List String :=
  ["MAX_RUNNING"]

/-- The points of an experiment at which a workflow can run. -/
def hookPoints : List String :=
  ["PRE_SIMULATION", "POST_SIMULATION", "PRE_UPDATE", "POST_UPDATE", "PRE_FIRST_UPDATE"]

/-- The hook points as choices of a parameter. -/
def hookPointChoices : List Choice :=
  [⟨"PRE_SIMULATION", "Before the forward models of an iteration start."⟩,
   ⟨"POST_SIMULATION", "After all realizations of an iteration finished."⟩,
   ⟨"PRE_UPDATE", "Before every update step."⟩,
   ⟨"POST_UPDATE", "After every update step."⟩,
   ⟨"PRE_FIRST_UPDATE", "Before the first update step only."⟩]

/-- The transformations of the values of a field. -/
def transformFunctions : List String :=
  ["LN", "LOG", "LN0", "LOG10", "EXP", "EXP0", "POW10", "TRUNC_POW10"]

/-- The transformations as choices of a parameter. -/
def transformChoices : List Choice :=
  [⟨"LN", "Natural logarithm."⟩,
   ⟨"LOG", "Natural logarithm (alias of `LN`)."⟩,
   ⟨"LN0", "Natural logarithm of `x + 0.000001`."⟩,
   ⟨"LOG10", "Base-10 logarithm."⟩,
   ⟨"EXP", "Natural exponential."⟩,
   ⟨"EXP0", "Natural exponential minus `0.000001`."⟩,
   ⟨"POW10", "Ten to the power of x."⟩,
   ⟨"TRUNC_POW10", "`max(10^x - 0.001, 0)`."⟩]

/-- The types a field can have. -/
def fieldTypeChoices : List Choice :=
  [⟨"PARAMETER", "The field is a parameter updated by the analysis."⟩]

/-- The sources of historical values. -/
def historySourceChoices : List Choice :=
  [⟨"REFCASE_SIMULATED", "Use simulated vectors from the reference case."⟩,
   ⟨"REFCASE_HISTORY", "Use the `*H` history vectors of the reference case."⟩]

/-- The formats of the result file of a general data response. -/
def resultFormatChoices : List Choice :=
  [⟨"ASCII", "One value per line."⟩]

/-- The well, group and field summary vectors. -/
def summaryVectors : List String :=
  ["FOPR", "FOPT", "FOPRH", "FOPTH", "FWPR", "FWPT", "FWPRH", "FWPTH", "FGPR", "FGPT", "FGPRH",
   "FGPTH", "FWIR", "FWIT", "FGIR", "FGIT", "FWCT", "FWCTH", "FGOR", "FGORH", "FPR", "FOIP",
   "FGIP", "FWIP", "WOPR", "WOPT", "WOPRH", "WOPTH", "WWPR", "WWPT", "WWPRH", "WWPTH", "WGPR",
   "WGPT", "WGPRH", "WGPTH", "WWIR", "WWIT", "WGIR", "WGIT", "WWCT", "WWCTH", "WGOR", "WGORH",
   "WBHP", "WBHPH", "WTHP", "WTHPH", "WSTAT", "GOPR", "GOPT", "GWPR", "GWPT", "GGPR", "GGPT",
   "GWIR", "GGIR", "GWCT", "GGOR", "BPR", "BSWAT", "BSGAS", "RPR", "ROIP", "RGIP", "RWIP"]

/-- Whether a text names a summary vector: up to its first colon it is a vector, or it holds a
wildcard and what stands before the first wildcard begins a vector. -/
def isSummaryVector (text : String) : Bool :=
  let base := text.toList.takeWhile (· != ':')
  if base.contains '*' then
    let stem := base.takeWhile (· != '*')
    summaryVectors.any fun vector => startsWith vector.toList stem
  else summaryVectors.contains (String.ofList base)

/-- Whether a text is a finite decimal number that begins with a digit, a sign or a point. -/
def isNumericLiteral (text : String) : Bool :=
  match text.toList with
  | [] => false
  | c :: rest =>
    (c.isDigit || c == '-' || c == '+' || c == '.') && (Binary64.readFinite? (c :: rest)).isSome

end Schema

end EnsembleDesk

import EnsembleDesk.Schema.Choices
/-!
# Keywords of a configuration

The keyword table of the ERT configuration language, with the parameters each keyword declares.
-/

namespace EnsembleDesk

namespace Schema

/-- A positive count. -/
def countParameters : List Parameter :=
  [{ label := "count",
      documentation := "A positive integer.",
      required := true, numerical := true }]

/-- A duration. -/
def secondsParameters : List Parameter :=
  [{ label := "seconds",
      documentation := "Duration in seconds.",
      required := true, numerical := true }]

/-- A file. -/
def fileParameters : List Parameter :=
  [{ label := "file",
      documentation := "Path, relative to the config file.",
      required := true, takesFilepath := true }]

/-- A directory. -/
def directoryParameters : List Parameter :=
  [{ label := "directory",
      documentation := "Directory path.",
      required := true, takesFilepath := true }]

/-- A name. -/
def nameParameters : List Parameter :=
  [{ label := "name",
      documentation := "A name.",
      required := true }]

/-- A boolean flag. -/
def flagParameters : List Parameter :=
  [{ label := "value",
      documentation := "A boolean flag.",
      required := true, choices := booleanChoices }]

/-- A substitution key and its replacement. -/
def defineParameters : List Parameter :=
  [{ label := "<KEY>",
      documentation := "Substitution key, conventionally written `<KEY>`.",
      required := true },
   { label := "value",
      documentation := "Replacement text.",
      required := true }]

/-- The parameters of a 3D field. -/
def fieldParameters : List Parameter :=
  [{ label := "ID",
      documentation := "Name of the field; must match the keyword in the simulator deck.",
      required := true },
   { label := "PARAMETER",
      documentation := "Field type.",
      required := true, choices := fieldTypeChoices },
   { label := "OUTPUT_FILE",
      documentation := "File written for the forward model, e.g. `poro.grdecl`.",
      required := true, takesFilepath := true },
   { label := "INIT_FILES",
      documentation := "Initial realizations; `%d` is replaced by the realization number.",
      named := true, takesFilepath := true },
   { label := "INIT_TRANSFORM",
      documentation := "Transformation applied when loading the initial files.",
      named := true, choices := transformChoices },
   { label := "OUTPUT_TRANSFORM",
      documentation := "Transformation applied before writing the output file.",
      named := true, choices := transformChoices },
   { label := "FORWARD_INIT",
      documentation := "Whether the forward model creates the initial field.",
      named := true, choices := booleanChoices },
   { label := "MIN",
      documentation := "Truncate values below this bound after transforms.",
      named := true, numerical := true },
   { label := "MAX",
      documentation := "Truncate values above this bound after transforms.",
      named := true, numerical := true }]

/-- The parameters of a general data response. -/
def genDataParameters : List Parameter :=
  [{ label := "NAME",
      documentation := "Name of the response.",
      required := true },
   { label := "RESULT_FILE",
      documentation := "Result file written by the forward model; `%d` is the report step.",
      named := true, required := true, takesFilepath := true },
   { label := "INPUT_FORMAT",
      documentation := "Format of the result file.",
      named := true, choices := resultFormatChoices },
   { label := "REPORT_STEPS",
      documentation := "Comma separated report steps to load.",
      named := true }]

/-- The parameters of a 2D surface. -/
def surfaceParameters : List Parameter :=
  [{ label := "NAME",
      documentation := "Name of the surface parameter.",
      required := true },
   { label := "OUTPUT_FILE",
      documentation := "Surface file written for the forward model.",
      named := true, required := true, takesFilepath := true },
   { label := "INIT_FILES",
      documentation := "Initial surfaces; `%d` is replaced by the realization number.",
      named := true, required := true, takesFilepath := true },
   { label := "BASE_SURFACE",
      documentation := "Surface defining the grid geometry.",
      named := true, required := true, takesFilepath := true },
   { label := "FORWARD_INIT",
      documentation := "Whether the forward model creates the initial surface.",
      named := true, choices := booleanChoices }]

/-- The parameters of a group of scalar parameters. -/
def genKwParameters : List Parameter :=
  [{ label := "NAME",
      documentation := "Group name of the parameters.",
      required := true },
   { label := "TEMPLATE",
      documentation := "Template file with `<KEY>` placeholders.",
      takesFilepath := true },
   { label := "OUTPUT",
      documentation := "File the instantiated template is written to.",
      takesFilepath := true },
   { label := "PRIORS",
      documentation := "DIST file with one prior per line.",
      required := true, takesFilepath := true },
   { label := "INIT_FILES",
      documentation := "Initial values; `%d` is replaced by the realization number.",
      named := true, takesFilepath := true },
   { label := "FORWARD_INIT",
      documentation := "Whether the forward model creates the initial values.",
      named := true, choices := booleanChoices }]

/-- A workflow and when it runs. -/
def hookWorkflowParameters : List Parameter :=
  [{ label := "WORKFLOW",
      documentation := "Name of a loaded workflow.",
      required := true },
   { label := "HOOK",
      documentation := "When to run the workflow.",
      required := true, choices := hookPointChoices }]

/-- A job and its configuration. -/
def installJobParameters : List Parameter :=
  [{ label := "JOB_NAME",
      documentation := "Name used to reference the job from `FORWARD_MODEL`.",
      required := true },
   { label := "CONFIG_FILE",
      documentation := "Job configuration file.",
      required := true, takesFilepath := true }]

/-- A workflow file and its name. -/
def loadWorkflowParameters : List Parameter :=
  [{ label := "FILE",
      documentation := "Workflow file.",
      required := true, takesFilepath := true },
   { label := "NAME",
      documentation := "Name to register the workflow under." }]

/-- A workflow job file and its name. -/
def loadWorkflowJobParameters : List Parameter :=
  [{ label := "FILE",
      documentation := "Workflow job configuration file.",
      required := true, takesFilepath := true },
   { label := "NAME",
      documentation := "Name to register the job under." }]

/-- A job of the forward model. -/
def forwardModelParameters : List Parameter :=
  [{ label := "JOB",
      documentation := "Job name, optionally with `(<ARG>=value, ...)`.",
      required := true }]

/-- A job with positional arguments. -/
def simulationJobParameters : List Parameter :=
  [{ label := "JOB",
      documentation := "Job name.",
      required := true },
   { label := "ARGS",
      documentation := "Arguments passed verbatim to the job." }]

/-- An environment variable and its value. -/
def setenvParameters : List Parameter :=
  [{ label := "VARIABLE",
      documentation := "Environment variable name.",
      required := true },
   { label := "VALUE",
      documentation := "Value; may reference other variables as `$VAR`.",
      required := true }]

/-- A queue system. -/
def queueSystemParameters : List Parameter :=
  [{ label := "SYSTEM",
      documentation := "Queue system driver.",
      required := true, choices := queueSystemChoices }]

/-- An option of a queue system. -/
def queueOptionParameters : List Parameter :=
  [{ label := "SYSTEM",
      documentation := "Queue system the option applies to.",
      required := true, choices := queueSystemChoices },
   { label := "OPTION",
      documentation := "Driver specific option name.",
      required := true },
   { label := "VALUE",
      documentation := "Option value." }]

/-- A summary vector. -/
def summaryParameters : List Parameter :=
  [{ label := "VECTOR",
      documentation := "Summary vector, wildcards allowed (`WOPR:*`).",
      required := true }]

/-- A source of historical values. -/
def historySourceParameters : List Parameter :=
  [{ label := "SOURCE",
      documentation := "Where historical values come from.",
      required := true, choices := historySourceChoices }]

/-- A variable of an analysis module. -/
def analysisSetVarParameters : List Parameter :=
  [{ label := "MODULE",
      documentation := "Analysis module, e.g. `STD_ENKF`.",
      required := true },
   { label := "VARIABLE",
      documentation := "Variable name.",
      required := true },
   { label := "VALUE",
      documentation := "New value.",
      required := true }]

/-- A number of iterations. -/
def iterCountParameters : List Parameter :=
  [{ label := "iterations",
      documentation := "Number of iterations.",
      required := true, numerical := true }]

/-- A count or a percentage. -/
def minCountParameters : List Parameter :=
  [{ label := "count",
      documentation := "Absolute count or percentage.",
      required := true }]

/-- A random seed. -/
def seedParameters : List Parameter :=
  [{ label := "seed",
      documentation := "Integer seed.",
      required := true, numerical := true }]

/-- A scaling factor. -/
def alphaParameters : List Parameter :=
  [{ label := "alpha",
      documentation := "Positive number.",
      required := true, numerical := true }]

/-- A threshold. -/
def cutoffParameters : List Parameter :=
  [{ label := "cutoff",
      documentation := "Non-negative number.",
      required := true, numerical := true }]

/-- A template and its target. -/
def runTemplateParameters : List Parameter :=
  [{ label := "TEMPLATE",
      documentation := "Template file.",
      required := true, takesFilepath := true },
   { label := "TARGET",
      documentation := "Output file in the run path.",
      required := true, takesFilepath := true }]

/-- The keywords of the configuration language. -/
def ertKeywords : List Keyword :=
  [{ label := "NUM_REALIZATIONS",
      usage := "100",
      documentation := "Number of realizations in the ensemble.",
      signature := .parameters countParameters, required := true, numerical := true },
   { label := "MIN_REALIZATIONS",
      usage := "80%",
      documentation := "Minimum number of realizations that must succeed for an iteration to " ++
        "be accepted. May be given as an absolute number or a percentage.",
      signature := .parameters minCountParameters },
   { label := "DATA_FILE",
      usage := "MY_MODEL.DATA",
      documentation := "Simulator data file template; `<KEY>`s are substituted for every " ++
        "realization.",
      signature := .parameters fileParameters, takesFilepath := true },
   { label := "ECLBASE",
      usage := "MY_MODEL-<IENS>",
      documentation := "Base name of the simulator case. Must contain `<IENS>` or `%d` when " ++
        "more than one realization is run.",
      signature := .parameters nameParameters },
   { label := "JOBNAME",
      usage := "model-<IENS>",
      documentation := "Name of the jobs submitted to the queue.",
      signature := .parameters nameParameters },
   { label := "RUNPATH",
      usage := "simulations/realization-<IENS>/iter-<ITER>",
      documentation := "Directory the forward model of each realization runs in.",
      signature := .parameters directoryParameters, takesFilepath := true },
   { label := "RUNPATH_FILE",
      usage := ".ert_runpath_list",
      documentation := "File listing all run paths of the last experiment.",
      signature := .parameters fileParameters, takesFilepath := true },
   { label := "ENSPATH",
      usage := "storage",
      documentation := "Directory where ensemble storage is kept.",
      signature := .parameters directoryParameters, takesFilepath := true },
   { label := "DEFINE",
      usage := "<USER> alice",
      documentation := "Define a substitution key usable in the rest of the configuration.",
      signature := .parameters defineParameters },
   { label := "DATA_KW",
      usage := "<INCLUDE_PATH> /path/to/include",
      documentation := "Define a key substituted into the data file only.",
      signature := .parameters defineParameters },
   { label := "GRID",
      usage := "MY_MODEL.EGRID",
      documentation := "Simulator grid used by `FIELD` parameters and block observations.",
      signature := .parameters fileParameters, takesFilepath := true },
   { label := "REFCASE",
      usage := "refcase/MY_MODEL",
      documentation := "Reference case providing summary history and report times.",
      signature := .parameters fileParameters, takesFilepath := true },
   { label := "OBS_CONFIG",
      usage := "observations/observations.txt",
      documentation := "Observation configuration file.",
      signature := .parameters fileParameters, takesFilepath := true },
   { label := "TIME_MAP",
      usage := "time_map.txt",
      documentation := "File listing report step dates.",
      signature := .parameters fileParameters, takesFilepath := true },
   { label := "HISTORY_SOURCE",
      usage := "REFCASE_HISTORY",
      documentation := "Source of historical values for summary observations.",
      signature := .parameters historySourceParameters },
   { label := "FIELD",
      usage := "PORO PARAMETER poro.grdecl INIT_FILES:poro_%d.grdecl",
      documentation := "Declare a 3D grid parameter. Optional settings are given as " ++
        "`NAME:VALUE`: `INIT_FILES`, `INIT_TRANSFORM`, `OUTPUT_TRANSFORM`, `FORWARD_INIT`, " ++
        "`MIN`, `MAX`.",
      signature := .parameters fieldParameters },
   { label := "GEN_DATA",
      usage := "RFT_DATA RESULT_FILE:rft_%d.txt REPORT_STEPS:10",
      documentation := "Declare a general data response read from a result file after each " ++
        "forward model.",
      signature := .parameters genDataParameters },
   { label := "SURFACE",
      usage := "TOP OUTPUT_FILE:top.irap INIT_FILES:top_%d.irap BASE_SURFACE:base.irap",
      documentation := "Declare a 2D surface parameter.",
      signature := .parameters surfaceParameters },
   { label := "GEN_KW",
      usage := "MULT template.tmpl mult.inc priors.txt",
      documentation := "Declare a group of scalar parameters with priors from a DIST file.",
      signature := .parameters genKwParameters },
   { label := "SUMMARY",
      usage := "WOPR:*",
      documentation := "Load a summary vector from the simulator results.",
      signature := .parameters summaryParameters },
   { label := "INSTALL_JOB",
      usage := "MY_JOB jobs/MY_JOB",
      documentation := "Install a forward model job from a job configuration file.",
      signature := .parameters installJobParameters },
   { label := "INSTALL_JOB_DIRECTORY",
      usage := "jobs",
      documentation := "Install every job configuration found in a directory.",
      signature := .parameters directoryParameters, takesFilepath := true },
   { label := "FORWARD_MODEL",
      usage := "ECLIPSE100(<VERSION>=2020.2, <NUM_CPU>=4)",
      documentation := "Append a job to the forward model. Arguments are passed as " ++
        "`<ARG>=value` pairs inside parentheses.",
      signature := .parameters forwardModelParameters },
   { label := "SIMULATION_JOB",
      usage := "MY_JOB arg1 arg2",
      documentation := "Append a job to the forward model with positional arguments.",
      signature := .parameters simulationJobParameters },
   { label := "SETENV",
      usage := "OMP_NUM_THREADS 1",
      documentation := "Set an environment variable for all forward model jobs.",
      signature := .parameters setenvParameters },
   { label := "UPDATE_PATH",
      usage := "PATH /opt/bin",
      documentation := "Prepend a directory to a path-like environment variable.",
      signature := .parameters setenvParameters },
   { label := "QUEUE_SYSTEM",
      usage := "LSF",
      documentation := "Queue system used to run the forward models.",
      signature := .parameters queueSystemParameters },
   { label := "QUEUE_OPTION",
      usage := "LSF LSF_QUEUE normal",
      documentation := "Set a driver specific option for a queue system.",
      signature := .parameters queueOptionParameters },
   { label := "MAX_RUNTIME",
      usage := "3600",
      documentation := "Kill realizations running longer than this many seconds. `0` disables " ++
        "the limit.",
      signature := .parameters secondsParameters, numerical := true },
   { label := "MAX_SUBMIT",
      usage := "2",
      documentation := "How many times a failing realization is resubmitted.",
      signature := .parameters countParameters, numerical := true },
   { label := "STOP_LONG_RUNNING",
      usage := "TRUE",
      documentation := "Stop realizations that run much longer than the average once enough " ++
        "have finished.",
      signature := .parameters flagParameters },
   { label := "LOAD_WORKFLOW",
      usage := "workflows/MY_WORKFLOW",
      documentation := "Load a workflow file.",
      signature := .parameters loadWorkflowParameters },
   { label := "LOAD_WORKFLOW_JOB",
      usage := "workflow_jobs/MY_JOB",
      documentation := "Load a workflow job configuration.",
      signature := .parameters loadWorkflowJobParameters },
   { label := "WORKFLOW_JOB_DIRECTORY",
      usage := "workflow_jobs",
      documentation := "Load every workflow job configuration found in a directory.",
      signature := .parameters directoryParameters, takesFilepath := true },
   { label := "HOOK_WORKFLOW",
      usage := "MY_WORKFLOW PRE_SIMULATION",
      documentation := "Run a loaded workflow automatically at a point of the experiment.",
      signature := .parameters hookWorkflowParameters },
   { label := "INCLUDE",
      usage := "other.ert",
      documentation := "Include another configuration file at this point.",
      signature := .parameters fileParameters, takesFilepath := true },
   { label := "RANDOM_SEED",
      usage := "123456",
      documentation := "Seed for the random number generator; makes sampling reproducible.",
      signature := .parameters seedParameters, numerical := true },
   { label := "ANALYSIS_SET_VAR",
      usage := "STD_ENKF ENKF_TRUNCATION 0.98",
      documentation := "Set an analysis module variable.",
      signature := .parameters analysisSetVarParameters },
   { label := "ANALYSIS_SELECT",
      usage := "STD_ENKF",
      documentation := "Select the analysis module used for updates.",
      signature := .parameters nameParameters },
   { label := "ENKF_ALPHA",
      usage := "3.0",
      documentation := "Scaling factor for outlier detection.",
      signature := .parameters alphaParameters, numerical := true },
   { label := "STD_CUTOFF",
      usage := "1e-6",
      documentation := "Responses with an ensemble standard deviation below this are excluded.",
      signature := .parameters cutoffParameters, numerical := true },
   { label := "UPDATE_LOG_PATH",
      usage := "update_log",
      documentation := "Directory where update reports are written.",
      signature := .parameters directoryParameters, takesFilepath := true },
   { label := "ITER_CASE",
      usage := "default_%d",
      documentation := "Case name format for iterated smoothers.",
      signature := .parameters nameParameters },
   { label := "ITER_COUNT",
      usage := "4",
      documentation := "Number of iterations for iterated smoothers.",
      signature := .parameters iterCountParameters, numerical := true },
   { label := "ITER_RETRY_COUNT",
      usage := "4",
      documentation := "Times an iteration is retried before giving up.",
      signature := .parameters iterCountParameters, numerical := true },
   { label := "GEN_KW_EXPORT_NAME",
      usage := "parameters",
      documentation := "Base name of the exported parameter files.",
      signature := .parameters nameParameters },
   { label := "RUN_TEMPLATE",
      usage := "template.txt output.txt",
      documentation := "Instantiate a template into every run path.",
      signature := .parameters runTemplateParameters },
   { label := "JOB_SCRIPT",
      usage := "job_dispatch.py",
      documentation := "Script used to dispatch the forward model.",
      signature := .parameters fileParameters, takesFilepath := true },
   { label := "LICENSE_PATH",
      usage := "/path/to/licenses",
      documentation := "Directory used to limit license usage.",
      signature := .parameters directoryParameters, takesFilepath := true, deprecated := true },
   { label := "SCHEDULE_PREDICTION_FILE",
      usage := "prediction.sch",
      documentation := "Schedule file used for prediction. No longer used.",
      signature := .parameters fileParameters, takesFilepath := true, deprecated := true },
   { label := "UMASK",
      usage := "0022",
      documentation := "File creation mask for the run paths. No longer used.",
      signature := .parameters nameParameters, deprecated := true },
   { label := "REFCASE_LIST",
      usage := "refcases/*",
      documentation := "Additional reference cases for plotting. No longer used.",
      signature := .parameters fileParameters, deprecated := true }]

end Schema

end EnsembleDesk

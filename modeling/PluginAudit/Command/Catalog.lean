import PluginAudit.Command.Option

namespace PluginAudit.Command

def program : String :=
  "mzguard"

def version : String :=
  "0.1.0"

def anyPath : Shape :=
  .path ⟨false, true, true⟩

def existingFile : Shape :=
  .path ⟨true, true, false⟩

def help : OptionSpec :=
  ⟨"help", ["--help"], .flag []⟩

def formatOption (words : List String) : OptionSpec :=
  ⟨"format", ["--format", "-f"], .valued (.choice words)⟩

def outputOption : OptionSpec :=
  ⟨"output", ["--output", "-o"], .valued anyPath⟩

def logOptions : List OptionSpec :=
  [⟨"logLevel", ["--log-level"], .valued (.choice ["DEBUG", "INFO", "WARNING", "ERROR", "CRITICAL"])⟩,
    ⟨"logFile", ["--log-file"], .valued anyPath⟩,
    ⟨"jsonLogging", ["--json-logging"], .flag []⟩]

def reportOptions : List OptionSpec :=
  [⟨"popularity", ["--popularity"], .valued existingFile⟩,
    ⟨"threshold", ["--threshold"], .valued .float⟩,
    formatOption ["markdown", "json", "table"],
    outputOption,
    ⟨"failOn", ["--fail-on"], .valued (.choice ["never", "info", "warning"])⟩]

def mainSpec : Spec where
  name := program
  usage := "[OPTIONS] COMMAND [ARGS]..."
  options := [⟨"version", ["--version"], .flag []⟩, help]
  argument := none
  isGroup := true

def scanSpec : Spec where
  name := program ++ " scan"
  usage := "[OPTIONS] PROJECT_PATH"
  options :=
    [⟨"mode", ["--mode"], .valued (.choice ["full", "conflicts", "dependencies"])⟩] ++ reportOptions ++
      [⟨"workers", ["--workers"], .valued .int⟩,
        ⟨"includeDisabled", ["--include-disabled"], .flag []⟩,
        ⟨"verbose", ["--verbose", "-v"], .flag ["--no-verbose", "--no-v"]⟩] ++ logOptions ++ [help]
  argument := some ⟨"projectPath", "PROJECT_PATH", false, .path ⟨false, false, true⟩⟩
  isGroup := false

def checkSpec : Spec where
  name := program ++ " check"
  usage := "[OPTIONS] FILES..."
  options :=
    reportOptions ++ [⟨"dependencies", ["--dependencies"], .flag ["--no-dependencies"]⟩] ++ logOptions ++ [help]
  argument := some ⟨"files", "FILES...", true, existingFile⟩
  isGroup := false

def overridesSpec : Spec where
  name := program ++ " overrides"
  usage := "[OPTIONS] FILE"
  options := [formatOption ["text", "json"], help]
  argument := some ⟨"file", "FILE", false, existingFile⟩
  isGroup := false

def popularitySpec : Spec where
  name := program ++ " popularity"
  usage := "[OPTIONS] CORPUS_PATH"
  options := [outputOption, ⟨"top", ["--top"], .valued .int⟩] ++ logOptions ++ [help]
  argument := some ⟨"corpusPath", "CORPUS_PATH", false, .path ⟨true, false, true⟩⟩
  isGroup := false

def configSpec : Spec where
  name := program ++ " config"
  usage := "[OPTIONS] COMMAND [ARGS]..."
  options := [help]
  argument := none
  isGroup := true

def exportSpec : Spec where
  name := program ++ " config export"
  usage := "[OPTIONS]"
  options := [outputOption, formatOption ["yaml", "json"], help]
  argument := none
  isGroup := false

def importSpec : Spec where
  name := program ++ " config import"
  usage := "[OPTIONS] CONFIG_FILE"
  options := [help]
  argument := some ⟨"configFile", "CONFIG_FILE", false, .path ⟨true, true, true⟩⟩
  isGroup := false

end PluginAudit.Command

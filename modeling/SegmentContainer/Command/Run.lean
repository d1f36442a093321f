import SegmentContainer.Command.Arguments
import SegmentContainer.Command.Report
import SegmentContainer.Container.Parser
import SegmentContainer.Export.Target
import SegmentContainer.Image.Opened

/-!
# Running a command

A command line is run on a host and ends with a status: 0 for success, 1 for an
error, 2 for a command line that is not understood, 101 for a crash and 130 for an
export that was told to stop.
-/

set_option autoImplicit false

namespace SegmentContainer.Command

def crashStatus : Nat := 101

def cancelledStatus : Nat := 130

variable {m : Type → Type} [Monad m] [Host m]

def print (text : String) : m Unit :=
  Host.putOut (Utf8.encode text)

def fail (error : Error) : m Nat := do
  if error.isCancelled then
    Host.putError "Export cancelled, no artifact written\n"
    return cancelledStatus
  else
    Host.putError ("Error: " ++ error.fullMessage ++ "\n")
    return 1

def halt : Halt → m Nat
  | .failed error => fail error
  | .crashed reason => do
    Host.putError (reason ++ "\n")
    return crashStatus

def readPlaced (image : OpenedImage) (memory : Memory) (placed : Placed) : m ReadOutcome := do
  match image.backingPath? (some placed.index) with
  | none =>
    return image.read memory (fun _ => .missing .notFound) (some placed.index) placed.region
  | some path =>
    let found ← Host.find path
    return image.read memory (fun _ => found) (some placed.index) placed.region

/-- The outcomes of reading some regions, as answers to an export that reads them
in the same order and is never told to stop. -/
def readAll (image : OpenedImage) (memory : Memory) : m Surroundings := do
  let outcomes ← image.toImage.selected.mapM (readPlaced image memory)
  let answers := outcomes.toArray
  return {
    read := fun number placed => (answers[number]?).getD (.refused placed.region .noData)
    stop := fun _ => false }

/-- Writes the summary of an export.  The container is delivered by then, so that
a failure is only worth a warning. -/
def writeSummary (path : String) (summary : ExportSummary) : m Unit := do
  let warn (fault : FileFault) : m Unit :=
    Host.putError (warning ++ " Failed to write summary: Failed to write " ++ path ++ ": "
      ++ fault.message ++ "\n")
  match ← Host.write path (Utf8.encode summary.toJson.pretty) false with
  | .written => Host.putError ("Summary written to: " ++ path ++ "\n")
  | .notCreated fault => warn fault
  | .notWritten fault => warn fault

def exportOpened (memory : Memory) (image : OpenedImage) (target : OutputTarget)
    (policy : ReadFailurePolicy) (summaryPath : Option String) : m Nat := do
  let listing := image.toImage
  Host.putError s!"Loaded {listing.name} ({listing.regions.length} regions, {listing.symbols.length} symbols)\n"
  match ← target.exportTo memory ⟨policy⟩ listing (readAll image memory) with
  | .error reason => halt reason
  | .ok summary =>
    Host.putError (warnings summary)
    match summaryPath with
    | none => pure ()
    | some path => writeSummary path summary
    Host.putError (successLine (← target.shown) summary)
    return 0

/-- The export command.  The target is checked before the input is looked at. -/
def runExport (memory : Memory) (input output : String) (format : InputFormat)
    (policy : ReadFailurePolicy) (summaryPath : Option String) : m Nat := do
  Host.putError (nameAndVersion ++ " - Export Mode\n")
  let target := OutputTarget.ofArgument output
  match ← target.validate with
  | .error error => fail error
  | .ok _ =>
    match openImage input format (← Host.find input) with
    | .error error => fail error
    | .ok image => exportOpened memory image target policy summaryPath

def runInspect (artifact : String) (json : Bool) (limit : Nat) : m Nat := do
  match (← Host.find artifact).readAll with
  | .error fault =>
    Host.putError ("Error: Failed to read " ++ artifact ++ ": " ++ fault.message ++ "\n")
    return 1
  | .ok bytes =>
    match Container.parse bytes with
    | .error malformed => fail (.malformed malformed)
    | .ok container =>
      if json then print (container.summaryJson.pretty ++ "\n")
      else print (containerReport artifact container limit)
      return 0

def run (memory : Memory) (words : List String) (environment : String → Option String) :
    m Nat := do
  match read? words environment with
  | none =>
    Host.putError usage
    return 2
  | some .help =>
    print usage
    return 0
  | some .version =>
    print (nameAndVersion ++ "\n")
    return 0
  | some (.exportImage input output format policy summaryPath) =>
    runExport memory input output format policy summaryPath
  | some (.inspectArtifact artifact json limit) => runInspect artifact json limit

end SegmentContainer.Command

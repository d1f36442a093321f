import SegmentContainer.Container.Basic
import SegmentContainer.Export.Summary

/-!
# Reports of the commands

What the commands print.  Colours are always on: they are sequences that start
with the escape character and name a rendition by its number.
-/

set_option autoImplicit false

namespace SegmentContainer.Command

def rendition (number : Nat) : String :=
  String.singleton (Char.ofNat 27) ++ s!"[{number}m"

def coloured (colour : Nat) (text : String) : String :=
  rendition colour ++ text ++ rendition 39

def red (text : String) : String := coloured 31 text

def green (text : String) : String := coloured 32 text

def yellow (text : String) : String := coloured 33 text

def bold (text : String) : String := rendition 1 ++ text ++ rendition 0

def dimmed (text : String) : String := rendition 2 ++ text ++ rendition 0

def nameAndVersion : String := "segexport 0.2.0"

def usage : String :=
  "Usage: segexport [-v | -q] export INPUT -o OUTPUT [--format auto|manifest|elf]\n"
    ++ "         [--on-read-error zero-fill|omit|drop-region] [--summary-json FILE]\n"
    ++ "       segexport [-v | -q] inspect ARTIFACT [--json] [--symbols N]\n"

def warning : String := yellow "[WARN]"

def failureLine (failure : ReadFailure) : String :=
  warning ++ " " ++ failure.name ++ " at " ++ Numeral.upperHex failure.start.toNat ++ ": "
    ++ failure.message ++ " (" ++ failure.resolution.word ++ ")\n"

def warnings (summary : ExportSummary) : String :=
  String.join (summary.readFailures.map failureLine)
    ++ if summary.isAligned then ""
       else warning ++ " Region data is misaligned; sequential readers will misparse "
         ++ "this container\n"

def successLine (target : String) (summary : ExportSummary) : String :=
  bold (green "[SUCCESS]") ++ s!" Export complete: {target} ({summary.regionsExported} regions, {summary.symbolsExported} symbols, {summary.totalSize} bytes)\n"

/-- The letters of permissions in the colour of the most telling one. -/
def colouredPermissions (permissions : Permissions) : String :=
  if permissions.execute then red permissions.text
  else if permissions.write then yellow permissions.text
  else green permissions.text

def regionLine (region : ContainerRegion) : String :=
  let header := region.header
  let permissions :=
    match header.flags? with
    | some flags => colouredPermissions flags
    | none => red (Numeral.lowerHex header.permissions.toNat)
  "  " ++ Numeral.fullHex header.start.toNat ++ "-" ++ Numeral.fullHex header.endExclusive.toNat
    ++ "  " ++ permissions ++ "  "
    ++ Numeral.padLeft ' ' 10 (toString header.size.toNat) ++ " bytes\n"

def symbolLine (symbol : ContainerSymbol) : String :=
  "  " ++ Numeral.fullHex symbol.address.toNat ++ "  " ++ symbol.name ++ "\n"

def containerReport (path : String) (container : Container) (limit : Nat) : String :=
  let hidden := container.symbols.length - limit
  bold path ++ "\n"
    ++ s!"  {container.totalSize} bytes, {container.regions.length} regions, {container.dataSize} data bytes, {container.symbols.length} symbols\n"
    ++ "\n" ++ bold "Regions" ++ "\n"
    ++ String.join (container.regions.map regionLine)
    ++ "\n" ++ bold "Symbols" ++ s!" ({container.symbolPayloadSize} payload bytes)\n"
    ++ String.join ((container.symbols.take limit).map symbolLine)
    ++ if hidden = 0 then "" else "  " ++ dimmed s!"... {hidden} more" ++ "\n"

end SegmentContainer.Command

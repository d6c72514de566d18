import DartModels.Catalog.Grouping
import DartModels.Dart.RowClass

namespace DartModels.Dart

/-- What every generated file starts with: the reader of intervals, and the
    interface of all classes. -/
def prelude : String := Text.lines [
  "Duration parsePostgresInterval(String interval) \x7b",
  "  // Regular expression to match HH:MM:SS format",
  "  final regex = RegExp(r'^([0-9]\x7b2\x7d):([0-5][0-9]):([0-5][0-9])$');",
  "  final match = regex.firstMatch(interval);",
  "",
  "  if (match == null) \x7b",
  "    throw FormatException('Invalid interval format. Expected HH:MM:SS');",
  "  \x7d",
  "",
  "  final hours = int.parse(match.group(1)!);",
  "  final minutes = int.parse(match.group(2)!);",
  "  final seconds = int.parse(match.group(3)!);",
  "",
  "  return Duration(",
  "    hours: hours,",
  "    minutes: minutes,",
  "    seconds: seconds,",
  "  );",
  "\x7d",
  "",
  "abstract class JsonSerializable \x7b",
  "  Map<String, dynamic> toJson();",
  "",
  "  // Implementing classes provide a matching factory constructor",
  "  factory JsonSerializable.fromJson(Map<String, dynamic> json) \x7b",
  "    throw UnimplementedError();",
  "  \x7d",
  "\x7d",
  ""]

/-- The generated file: the declarations, then the row classes of tables, which
    take inserts, and of views, which do not. -/
def source (declarables : List DartType) (tables views : List Relation)
    (columns : Table (List Column)) (registry : Registry) : Except Fault String := do
  let declarations ← declarables.mapM declaration
  let rows (withInsert : Bool) (relation : Relation) : Except Fault String := do
    rowSource relation (← Snapshot.columnsOf columns relation) registry withInsert
  let tableRows ← tables.mapM (rows true)
  let viewRows ← views.mapM (rows false)
  return Text.joined "\n\n" (prelude :: (declarations ++ tableRows ++ viewRows)) ++ "\n"

end DartModels.Dart

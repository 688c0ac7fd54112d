import Predictive.Analysis.Summary
import Predictive.Grammar.Source
import Predictive.Table.Grid
/-!
# Answers as JSON text

From the text of a grammar to the JSON text of its analysis or of its table, or of the error that
stands in the way.
-/
namespace Predictive

namespace Report

def errorText (message : String) : String :=
  (Json.object [("error", .string message)]).compact

def summary (source : String) : String :=
  match Grammar.read source with
  | .error e => errorText e.message
  | .ok g => g.summaryJson.compact

def table (source : String) : String :=
  match Grammar.read source with
  | .error e => errorText e.message
  | .ok g =>
    match g.table with
    | .error c => errorText c.message
    | .ok t => (t.grid g).json.compact

end Report

end Predictive

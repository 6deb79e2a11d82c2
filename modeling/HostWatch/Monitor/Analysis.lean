import HostWatch.Alert.Alert

/-!
# Analyses

The alert in which an inference backend explains another one.
-/

namespace HostWatch

/-- The source of every analysis. -/
def analysisSource : String := "ai_analysis"

/-- The alert that carries what a backend said about `parent`. -/
def analysisOf (now : Int) (parent : Alert) (text : String) : Alert :=
  { Alert.new now parent.severity .aiAnalysis analysisSource
      ("AI analysis: " ++ parent.message) with
    description := text
    metadata := ((NameMap.empty.put Alert.parentKey parent.id).put Alert.enhancedKey "true").put
      "parent_category" parent.category.name }

end HostWatch

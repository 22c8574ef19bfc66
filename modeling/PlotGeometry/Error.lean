import PlotGeometry.Geometry.Area
import PlotGeometry.Series
/-!
# 配置の誤り

配置が報告する誤りは五種類。

* 時系列の形の誤り（`inconsistent series `名前`: 理由`）
* 領域が潰れた（`plot area collapsed after 段階: x=[…] y=[…]`）
* Y 軸の配置が決まらない（`axis layout did not converge after N iterations`）
* 扱わない描き方（円グラフ、対数軸）
* 設定が読めない（`invalid data: …`）

## 停止性

再帰はない。
-/

namespace PlotGeometry

/-- 扱わない描き方。 -/
inductive Unsupported where
  | pieGraphs
  | logarithmicAxis
  deriving DecidableEq

/-- 描き方の名前。 -/
def Unsupported.describe : Unsupported → String
  | .pieGraphs => "pie graphs"
  | .logarithmicAxis => "logarithmic y axis"

/-- 配置の誤り。 -/
inductive ChartError where
  | inconsistentSeries (name : String) (fault : SeriesFault)
  | areaCollapsed (stage : String) (area : Area)
  | nonConvergence (iterations : Nat)
  | unsupported (mode : Unsupported)
  | invalidData (detail : String)

namespace ChartError

/-- 誤りの種類の名前。 -/
def kind : ChartError → String
  | .inconsistentSeries .. => "InconsistentSeries"
  | .areaCollapsed .. => "AreaCollapsed"
  | .nonConvergence .. => "LayoutNonConvergence"
  | .unsupported .. => "UnimplementedMode"
  | .invalidData .. => "InvalidData"

/-- 誤りの文言。 -/
def message : ChartError → String
  | .inconsistentSeries name fault => "inconsistent series `" ++ name ++ "`: " ++ fault.reason
  | .areaCollapsed stage area => "plot area collapsed after " ++ stage ++ ": " ++ area.display
  | .nonConvergence n => "axis layout did not converge after " ++ toString n ++ " iterations"
  | .unsupported mode => "unsupported mode: " ++ mode.describe
  | .invalidData detail => "invalid data: " ++ detail

end ChartError

/-- 幅と高さが正ならそのまま、そうでなければ段階の名前を付けた誤り。 -/
def Area.ensureValid (a : Area) (stage : String) : Except ChartError Area :=
  if a.valid then .ok a else .error (.areaCollapsed stage a)

end PlotGeometry

import PlotGeometry.Proofs.Layout.Exits
/-!
# 一つの配置器で続けて配置する

配置器が配置から配置へ持ち越すのは手順の進み具合だけで、配置の始めに戻されることもない。
それでも配置の結果は進み具合によらない。配置は状態を読まないからである
（`Converger.converge_writes`）。配置の後の進み具合は、その配置で最後に入った手順、入らな
ければ前のままで、入った手順は終わり方で決まる（`Converger.converge_exits`）。

* `stageAfter` — 前の進み具合と配置の終わり方から、後の進み具合
* `enteredFor_forward` — 一度の配置で入る手順は、題、縦の題、凡例、軸、終わりの順の先頭か、
  「データなし」だけ。手順は前にしか進まない
* `Converger.converge_eq_fresh` — 一度の配置は、新しい配置器での配置に、`stageAfter` で
  移した進み具合を付けたもの
* `Converger.session_eq_freshSession` — 続けて配置しても、各配置は新しい配置器のものと同じで、
  進み具合だけが `stageAfter` で移っていく
-/

namespace PlotGeometry

variable {tk : Toolkit}

/-- 手順が先へ進む順：題、縦の題、凡例、軸、終わり。 -/
def LayoutStage.pipeline : List LayoutStage :=
  [.titleReserved, .vTitleReserved, .legendReserved, .axisConverged, .done]

/-- 配置の後の進み具合：その配置で最後に入った手順、入らなければ前の進み具合 `before`。
描けたなら終わり、データがなければ「データなし」、縦の題で潰れたなら題、凡例で潰れたなら
縦の題、X か Y のラベル、決まらない組み直し、最後の点の誤り、64 ビットの越えなら凡例。
扱えない描き方、形や時刻の範囲の誤り、余白や題で潰れたなら前のまま。 -/
def stageAfter (before : LayoutStage) (r : Except LayoutFailure LayoutOutcome) : LayoutStage :=
  (enteredFor r).getLast?.getD before

example (before : LayoutStage) (a : Area) :
    stageAfter before (.error (.chart (.areaCollapsed "legend" a))) = .vTitleReserved := by
  simp [stageAfter, enteredFor, collapsedEntered]

theorem collapsedEntered_isPrefix_pipeline (stage : String) :
    collapsedEntered stage <+: LayoutStage.pipeline := by
  unfold collapsedEntered
  split <;> decide

/-- 一度の配置で入る手順は、先へ進む順の先頭か、「データなし」だけ。 -/
theorem enteredFor_forward (r : Except LayoutFailure LayoutOutcome) :
    enteredFor r <+: LayoutStage.pipeline ∨ enteredFor r = [.noData] := by
  cases r with
  | ok o =>
    cases o with
    | plotted p => exact .inl (List.prefix_refl _)
    | noData p => exact .inr rfl
  | error e =>
    cases e with
    | overflow o => exact .inl ⟨_, rfl⟩
    | chart e =>
      cases e with
      | areaCollapsed stage a => exact .inl (collapsedEntered_isPrefix_pipeline stage)
      | inconsistentSeries name fault => cases fault <;> exact .inl ⟨_, rfl⟩
      | nonConvergence n => exact .inl ⟨_, rfl⟩
      | unsupported m => exact .inl ⟨_, rfl⟩
      | invalidData d => exact .inl ⟨_, rfl⟩

namespace Converger

/-- 一度の配置は、新しい配置器（進み具合が始め）での配置と、進み具合のほかは同じ。
後の進み具合は、前の進み具合と終わり方から `stageAfter` で決まる。 -/
theorem converge_eq_fresh (cv : Converger) (series : List Series) :
    cv.converge series =
      let run := { cv with stage := .init }.converge series
      { run with converger := { cv with stage := stageAfter cv.stage run.outcome } } := by
  obtain ⟨r, w, hw⟩ := converge_writes cv series
  have hentered : w.entered = enteredFor r := by
    have h := (converge_exits { cv with stage := .init } series).1
    rwa [hw] at h
  have hcv := hw cv.stage
  rw [hw .init]
  simp only at hcv ⊢
  rw [hcv, stageAfter, hentered]

/-- 一つの配置器で、系列の並びを順に配置する。配置ごとの結果を並べ、次の配置には前の配置の
後の配置器を使う。 -/
def session : Converger → List (List Series) → List LayoutRun
  | _, [] => []
  | cv, series :: rest =>
    let run := cv.converge series
    run :: session run.converger rest

/-- 新しい配置器での配置に、`before` から `stageAfter` で移していく進み具合を付けた並び。 -/
def freshSession (cv : Converger) : LayoutStage → List (List Series) → List LayoutRun
  | _, [] => []
  | before, series :: rest =>
    let run := { cv with stage := .init }.converge series
    let after := stageAfter before run.outcome
    { run with converger := { cv with stage := after } } :: freshSession cv after rest

theorem session_with_stage (cv : Converger) (calls : List (List Series)) (stage : LayoutStage) :
    ({ cv with stage }).session calls = cv.freshSession stage calls := by
  induction calls generalizing stage with
  | nil => rfl
  | cons series rest ih =>
    simp only [session, freshSession]
    rw [converge_eq_fresh]
    exact congrArg _ (ih _)

theorem mem_session {cv : Converger} {calls : List (List Series)} {run : LayoutRun}
    (h : run ∈ cv.session calls) : ∃ (cv' : Converger) (series : List Series), run = cv'.converge series := by
  induction calls generalizing cv with
  | nil => cases h
  | cons series rest ih =>
    rcases List.mem_cons.mp h with rfl | h
    · exact ⟨cv, series, rfl⟩
    · exact ih h

/-- 一つの配置器で続けて配置すると、各配置の結果（止まる理由、系列、警告、入った手順）は
新しい配置器での配置と同じで、配置器に残るのは、設定と X の上書きをそのままに、前の進み具合と
その配置の終わり方から `stageAfter` で決まる進み具合だけ。一度の配置で入る手順は、題、縦の題、
凡例、軸、終わりの順の先頭か、「データなし」だけ。 -/
theorem session_eq_freshSession (cv : Converger) (calls : List (List Series)) :
    cv.session calls = cv.freshSession cv.stage calls ∧
      ∀ run ∈ cv.session calls, run.entered <+: LayoutStage.pipeline ∨ run.entered = [.noData] := by
  refine ⟨session_with_stage cv calls cv.stage, fun run hrun => ?_⟩
  obtain ⟨cv', series, rfl⟩ := mem_session hrun
  rw [(converge_exits cv' series).1]
  exact enteredFor_forward _

end Converger

end PlotGeometry

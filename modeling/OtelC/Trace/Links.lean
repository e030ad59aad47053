import OtelC.Trace.Parenting

/-!
# The links of a span

The API makes a view of each link of a start and the SDK a link of its own of each view.  Nothing
else of a span depends on its links.

* `startSpanEx_links`: a start with links gives the span that it gives without any, with these links.
* `startSpanEx_link`: the same for one link among others.
-/

namespace OtelC.Trace

open OtelC.Context (ContextData)
open OtelC.Sdk (collectKeyValues)

variable {TraceState : Type} {fromStr : Str → Option TraceState}

/-- The options with these links. -/
def OtelSpanStartOptionsEx.withLinks (options : OtelSpanStartOptionsEx TraceState)
    (links : List OtelSpanLink) : OtelSpanStartOptionsEx TraceState :=
  { options with links := .elems links }

/-- What becomes of one link. -/
def passLink (fromStr : Str → Option TraceState) (link : OtelSpanLink) :
    Except Fail (SpanLink TraceState) := linkView link >>= convertLink fromStr

theorem convertLinks_viewsOf (views : List OtelSpanLinkView) :
    convertLinks fromStr (viewsOf views) = views.mapM (convertLink fromStr) := by
  cases views with
  | nil => rfl
  | cons view views => rfl

/-! ### The entries of the SDK -/

/-- A span is started when nothing of it is refused. -/
theorem vtTracerStartSpanEx_ok_iff {name : OtelStringView} {config : OtelSpanStartConfig TraceState}
    {start : SpanStart TraceState} :
    vtTracerStartSpanEx fromStr false name (some config) = .ok start ↔
      (¬config.reserved ≠ 0 ∧ ¬(config.parentSpanCtx.isSome ∧ config.parentContext.isSome)) ∧
        ∃ text attributes links parent, asStr name = .ok text ∧
          collectKeyValues config.attributes = .ok attributes ∧
          convertLinks fromStr config.links = .ok links ∧
          resolveParent fromStr config = .ok parent ∧
          start = ⟨text, spanKindFromU32 config.kind, attributes, links,
            if config.startTimeUnixNanos ≠ 0 then some config.startTimeUnixNanos else none,
            parent⟩ := by
  unfold vtTracerStartSpanEx
  constructor
  · intro h
    obtain ⟨hreserved, h⟩ := Checked.guard_eq_ok.mp h
    obtain ⟨hparents, h⟩ := Checked.guard_eq_ok.mp h
    obtain ⟨text, htext, h⟩ := Checked.bind_eq_ok.mp h
    obtain ⟨attributes, hattributes, h⟩ := Checked.bind_eq_ok.mp h
    obtain ⟨links, hlinks, h⟩ := Checked.bind_eq_ok.mp h
    obtain ⟨parent, hparent, h⟩ := Checked.bind_eq_ok.mp h
    exact ⟨⟨hreserved, hparents⟩, text, attributes, links, parent, htext, hattributes, hlinks,
      hparent, (Except.ok.inj h).symm⟩
  · rintro ⟨⟨hreserved, hparents⟩, text, attributes, links, parent, htext, hattributes, hlinks,
      hparent, rfl⟩
    refine Checked.guard_eq_ok.mpr ⟨hreserved, Checked.guard_eq_ok.mpr ⟨hparents, ?_⟩⟩
    rw [htext, Checked.ok_bind, hattributes, Checked.ok_bind, hlinks, Checked.ok_bind, hparent]
    rfl

theorem vtTracerStartSpanEx_links {name : OtelStringView} (config : OtelSpanStartConfig TraceState)
    {views : List OtelSpanLinkView} {start : SpanStart TraceState} :
    vtTracerStartSpanEx fromStr false name (some { config with links := viewsOf views }) =
        .ok start ↔
      ∃ plain links,
        vtTracerStartSpanEx fromStr false name (some { config with links := viewsOf [] }) =
          .ok plain ∧
        views.mapM (convertLink fromStr) = .ok links ∧ start = { plain with links := links } := by
  rw [vtTracerStartSpanEx_ok_iff]
  simp only [vtTracerStartSpanEx_ok_iff, convertLinks_viewsOf]
  constructor
  · rintro ⟨hguards, text, attributes, links, parent, htext, hattributes, hlinks, hparent, rfl⟩
    exact ⟨_, links, ⟨hguards, text, attributes, [], parent, htext, hattributes, rfl, hparent, rfl⟩,
      hlinks, rfl⟩
  · rintro ⟨plain, links, ⟨hguards, text, attributes, none', parent, htext, hattributes, -, hparent,
      rfl⟩, hlinks, rfl⟩
    exact ⟨hguards, text, attributes, links, parent, htext, hattributes, hlinks, hparent, rfl⟩

theorem vtTracerStartSpanExWithContext_links {name : OtelStringView}
    (config : OtelSpanStartConfig TraceState) {context : OtelContextView}
    {views : List OtelSpanLinkView} {start : SpanStart TraceState} :
    vtTracerStartSpanExWithContext fromStr false name (some { config with links := viewsOf views })
        (some context) = .ok start ↔
      ∃ plain links,
        vtTracerStartSpanExWithContext fromStr false name
          (some { config with links := viewsOf [] }) (some context) = .ok plain ∧
        views.mapM (convertLink fromStr) = .ok links ∧ start = { plain with links := links } := by
  unfold vtTracerStartSpanExWithContext
  simp only [fail, Checked.guard_eq_ok]
  constructor
  · rintro ⟨hsize, hflags, hparents, h⟩
    obtain ⟨plain, links, hplain, hlinks, rfl⟩ :=
      (vtTracerStartSpanEx_links { config with parentContext := context.spanContext }).mp h
    exact ⟨plain, links, ⟨hsize, hflags, hparents, hplain⟩, hlinks, rfl⟩
  · rintro ⟨plain, links, ⟨hsize, hflags, hparents, hplain⟩, hlinks, rfl⟩
    exact ⟨hsize, hflags, hparents,
      (vtTracerStartSpanEx_links { config with parentContext := context.spanContext }).mpr
        ⟨plain, links, hplain, hlinks, rfl⟩⟩

/-! ### The entry of the API -/

section Options

variable {options : OtelSpanStartOptionsEx TraceState} {links : List OtelSpanLink}
  {name : OtelStringView} {current : Option ContextData} {start : SpanStart TraceState}

theorem readLinks_withLinks (hsize : startOptionsExV1Size ≤ options.structSize) :
    (options.withLinks links).readLinks = .elems links := if_pos hsize

/-- The call of the SDK, once the parent and the views of the links are there. -/
def callSdk (fromStr : Str → Option TraceState) (name : OtelStringView)
    (options : OtelSpanStartOptionsEx TraceState) (current : Option ContextData)
    (parent : Option (SdkSpanContext TraceState) × Option OtelSpanContextView)
    (views : List OtelSpanLinkView) : Except Fail (SpanStart TraceState) :=
  let config : OtelSpanStartConfig TraceState :=
    ⟨options.kind, 0, parent.1, parent.2, options.startTimeUnixNanos, options.readAttributes,
      viewsOf views⟩
  if options.readParentMode = parentAmbient then
    vtTracerStartSpanExWithContext fromStr false name (some config) (some (ambientView current))
  else vtTracerStartSpanEx fromStr false name (some config)

theorem startSpanExBacked_withLinks (hsize : startOptionsExV1Size ≤ options.structSize) :
    startSpanExBacked fromStr name (options.withLinks links) current = (do
      let parent ← explicitParent options
      let views ← links.mapM linkView
      callSdk fromStr name options current parent views) := by
  rw [startSpanExBacked, readLinks_withLinks hsize]
  rfl

theorem callSdk_links {parent : Option (SdkSpanContext TraceState) × Option OtelSpanContextView}
    {views : List OtelSpanLinkView} :
    callSdk fromStr name options current parent views = .ok start ↔
      ∃ plain links, callSdk fromStr name options current parent [] = .ok plain ∧
        views.mapM (convertLink fromStr) = .ok links ∧ start = { plain with links := links } := by
  let config : OtelSpanStartConfig TraceState := ⟨options.kind, 0, parent.1, parent.2,
    options.startTimeUnixNanos, options.readAttributes, .null 0⟩
  unfold callSdk
  by_cases hmode : options.readParentMode = parentAmbient
  · simp only [if_pos hmode]
    exact vtTracerStartSpanExWithContext_links config
  · simp only [if_neg hmode]
    exact vtTracerStartSpanEx_links config

theorem startSpanExBacked_links (hsize : startOptionsExV1Size ≤ options.structSize) :
    startSpanExBacked fromStr name (options.withLinks links) current = .ok start ↔
      ∃ plain passed,
        startSpanExBacked fromStr name (options.withLinks []) current = .ok plain ∧
        links.mapM (passLink fromStr) = .ok passed ∧ start = { plain with links := passed } := by
  rw [startSpanExBacked_withLinks hsize, startSpanExBacked_withLinks hsize]
  constructor
  · intro h
    obtain ⟨parent, hparent, h⟩ := Checked.bind_eq_ok.mp h
    obtain ⟨views, hviews, h⟩ := Checked.bind_eq_ok.mp h
    obtain ⟨plain, passed, hplain, hpassed, rfl⟩ := callSdk_links.mp h
    refine ⟨plain, passed, ?_, Checked.mapM_bind.mpr ⟨views, hviews, hpassed⟩, rfl⟩
    rw [hparent]
    exact hplain
  · rintro ⟨plain, passed, hplain, hpassed, rfl⟩
    obtain ⟨parent, hparent, hplain⟩ := Checked.bind_eq_ok.mp hplain
    obtain ⟨views, hviews, hpassed⟩ := Checked.mapM_bind.mp hpassed
    rw [hparent, Checked.ok_bind, hviews, Checked.ok_bind]
    exact callSdk_links.mpr ⟨plain, passed, hplain, hpassed, rfl⟩

theorem checkStartOptions_withLinks (hsize : startOptionsExV1Size ≤ options.structSize)
    (hcount : links.length ≤ spanStartMaxLinks) :
    checkStartOptions (options.withLinks links) = checkStartOptions (options.withLinks []) := by
  have hnull (l : List OtelSpanLink) : ((CSlice.elems l).isNull && (CSlice.elems l).len ≠ 0) =
      false := rfl
  have hfew (l : List OtelSpanLink) (h : l.length ≤ spanStartMaxLinks) :
      ¬(CSlice.elems l).len > spanStartMaxLinks := Nat.not_lt.mpr h
  unfold checkStartOptions
  simp only [readLinks_withLinks hsize, hnull, if_neg (hfew links hcount),
    if_neg (hfew [] (Nat.zero_le _))]
  rfl

theorem started_iff {tracer : HandleArg OtelTracer} :
    otelTracerStartSpanEx fromStr tracer name (some options) current = .started start ↔
      checkedRef tracer = .ok .backed ∧ checkStartOptions options = .ok () ∧
        startSpanExBacked fromStr name options current = .ok start := by
  unfold otelTracerStartSpanEx
  cases checkedRef tracer with
  | error e => exact iff_of_false (fun h => by cases h) fun h => by cases h.1
  | ok tracer =>
    dsimp only
    cases checkStartOptions options with
    | error e => exact iff_of_false (fun h => by cases h) fun h => by cases h.2.1
    | ok u =>
      cases tracer with
      | noop => exact iff_of_false (fun h => by cases h) fun h => by cases h.1
      | backed =>
        dsimp only
        cases startSpanExBacked fromStr name options current with
        | error e => exact iff_of_false (fun h => by cases h) fun h => by cases h.2.2
        | ok span =>
          constructor
          · intro h
            exact ⟨rfl, rfl, congrArg Except.ok (StartCall.started.inj h)⟩
          · rintro ⟨-, -, h⟩
            exact congrArg StartCall.started (Except.ok.inj h)

/-- **The links of a span are those that were asked for**, and nothing else depends on them. -/
theorem startSpanEx_links {tracer : HandleArg OtelTracer}
    (hsize : startOptionsExV1Size ≤ options.structSize)
    (hcount : links.length ≤ spanStartMaxLinks) :
    otelTracerStartSpanEx fromStr tracer name (some (options.withLinks links)) current =
        .started start ↔
      ∃ plain passed, otelTracerStartSpanEx fromStr tracer name (some (options.withLinks []))
          current = .started plain ∧
        links.mapM (passLink fromStr) = .ok passed ∧ start = { plain with links := passed } := by
  rw [started_iff, checkStartOptions_withLinks hsize hcount, startSpanExBacked_links hsize]
  simp only [started_iff]
  constructor
  · rintro ⟨htracer, hchecks, plain, passed, hplain, hpassed, rfl⟩
    exact ⟨plain, passed, ⟨htracer, hchecks, hplain⟩, hpassed, rfl⟩
  · rintro ⟨plain, passed, ⟨htracer, hchecks, hplain⟩, hpassed, rfl⟩
    exact ⟨htracer, hchecks, plain, passed, hplain, hpassed, rfl⟩

/-- One link among others. -/
theorem startSpanEx_link {tracer : HandleArg OtelTracer} {before after : List OtelSpanLink}
    {link : OtelSpanLink} (hsize : startOptionsExV1Size ≤ options.structSize)
    (hcount : before.length + after.length < spanStartMaxLinks) :
    otelTracerStartSpanEx fromStr tracer name
        (some (options.withLinks (before ++ link :: after))) current = .started start ↔
      ∃ plain first passed last, otelTracerStartSpanEx fromStr tracer name
          (some (options.withLinks [])) current = .started plain ∧
        before.mapM (passLink fromStr) = .ok first ∧ passLink fromStr link = .ok passed ∧
        after.mapM (passLink fromStr) = .ok last ∧
        start = { plain with links := first ++ passed :: last } := by
  have hlength : (before ++ link :: after).length ≤ spanStartMaxLinks := by
    rw [List.length_append, List.length_cons]
    omega
  rw [startSpanEx_links hsize hlength]
  simp only [Checked.mapM_append_eq_ok, Checked.mapM_cons_eq_ok]
  constructor
  · rintro ⟨plain, _, hplain, ⟨first, _, hfirst, ⟨passed, last, hpassed, hlast, rfl⟩, rfl⟩, rfl⟩
    exact ⟨plain, first, passed, last, hplain, hfirst, hpassed, hlast, rfl⟩
  · rintro ⟨plain, first, passed, last, hplain, hfirst, hpassed, hlast, rfl⟩
    exact ⟨plain, _, hplain, ⟨first, _, hfirst, ⟨passed, last, hpassed, hlast, rfl⟩, rfl⟩, rfl⟩

end Options

end OtelC.Trace

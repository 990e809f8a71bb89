import Lush.Basic

/-!
# The powerline renderer

`lle_powerline_render` collects the visible segments of the theme, strips the
ANSI sequences from their content, resolves their colours, and assembles the
prompt through `buf_append`.  The theme, the segment registry and the colour
functions come from headers outside this source set (`lle/prompt/theme.h`,
`lle/prompt/segment.h`); here they are parameters that carry the fields and
functions the renderer uses.

Both render loops make their appends through a sink `append`, as the C helpers
all end in one `buf_append`.  The same loop then gives the bounded output (the
caller's array, through `bufAppend`) and the unbounded one (concatenation).
-/

namespace Lush
namespace Powerline

/-- The colour functions of `theme.h` that the renderer calls, over its colour type. -/
structure ColorOps (Color : Type) where
  /-- `lle_color_rgb(r, g, b)`. -/
  rgb : Nat → Nat → Nat → Color
  /-- `c.bold = true`. -/
  setBold : Color → Color
  /-- `c.mode != LLE_COLOR_MODE_NONE`. -/
  isSet : Color → Bool
  /-- `lle_color_downgrade(&c, has_true_color, has_256_color)`. -/
  downgrade : Color → Bool → Bool → Color
  /-- The code `lle_color_to_ansi(&c, is_fg, ansi, 32)` writes; it returns its length. -/
  toAnsi : Color → Bool → CString

/-- The fields of `lle_prompt_context_t` the renderer reads. -/
structure PromptContext where
  hasTrueColor : Bool
  has256Color : Bool

/-- An entry of `theme->segment_configs`; `showFlag` is the field `show`. -/
structure SegmentConfig (Color : Type) where
  name : CString
  configured : Bool
  showSet : Bool
  showFlag : Bool
  fgColorSet : Bool
  fgColor : Color
  bgColorSet : Bool
  bgColor : Color

/-- The fields of `lle_theme_t` the renderer reads. -/
structure Theme (Color : Type) where
  enabledSegments : List CString
  segmentConfigs : List (SegmentConfig Color)
  /-- `colors.text`. -/
  text : Color
  /-- `symbols.separator_left`, as its array. -/
  separatorLeft : List UInt8
  /-- `symbols.separator_right`, as its array. -/
  separatorRight : List UInt8

/-- `lle_segment_output_t`: the `content` array and the two fields checked. -/
structure SegmentOutput where
  content : List UInt8
  contentLen : Nat
  isEmpty : Bool

/-- A registered `lle_prompt_segment_t`: its optional visibility test and its
render callback (`.error` for a result other than `LLE_SUCCESS`). -/
structure PromptSegment (Color : Type) where
  isVisible : Option (PromptContext → Bool)
  render : PromptContext → Theme Color → Except LleResult SegmentOutput

/-- `lle_segment_registry_find`. -/
structure SegmentRegistry (Color : Type) where
  find : CString → Option (PromptSegment Color)

/-- A collected `powerline_segment_t`: stripped content and resolved colours. -/
structure PowerlineSegment (Color : Type) where
  content : List UInt8
  fg : Color
  bg : Color

/-- `lle_powerline_direction_t`. -/
inductive Direction
  | leftToRight
  | rightToLeft
deriving DecidableEq, Repr

/-- `POWERLINE_MAX_VISIBLE`. -/
def powerlineMaxVisible : Nat := 32

variable {Color : Type} (ops : ColorOps Color)

/-! ## Colours -/

/-- The `strcmp` chain of `default_segment_bg`, in its order. -/
def defaultSegmentBgTable : List (List UInt8 × Nat × Nat × Nat) :=
  [(lit "user", 68, 68, 68), (lit "host", 68, 68, 68), (lit "directory", 0, 95, 175),
   (lit "git", 135, 95, 175), (lit "status", 175, 0, 0), (lit "jobs", 175, 95, 0),
   (lit "time", 58, 58, 58), (lit "shlvl", 68, 68, 68), (lit "ssh", 175, 95, 0),
   (lit "cmd_duration", 175, 95, 0), (lit "virtualenv", 0, 135, 0),
   (lit "container", 0, 135, 135), (lit "aws", 175, 95, 0), (lit "kubernetes", 0, 95, 175)]

/-- `default_segment_bg(name)`: the first matching entry, else dark gray. -/
def defaultSegmentBg (name : CString) : Color :=
  match defaultSegmentBgTable.find? (fun e => e.1 == name.bytes) with
  | some (_, r, g, b) => ops.rgb r g b
  | none => ops.rgb 68 68 68

/-- `resolve_segment_colors`: bold white or the theme's text colour, the default
background, overridden by the first configured entry for the segment, then
downgraded to the terminal's capability.  Returns `(fg, bg)`. -/
def resolveSegmentColors (theme : Theme Color) (name : CString) (ctx : PromptContext) :
    Color × Color :=
  let fg := if ops.isSet theme.text then theme.text else ops.setBold (ops.rgb 255 255 255)
  let bg := defaultSegmentBg ops name
  let (fg, bg) := match theme.segmentConfigs.find? (fun c => c.name == name && c.configured) with
    | some c => (if c.fgColorSet then c.fgColor else fg, if c.bgColorSet then c.bgColor else bg)
    | none => (fg, bg)
  (ops.downgrade fg ctx.hasTrueColor ctx.has256Color, ops.downgrade bg ctx.hasTrueColor ctx.has256Color)

/-! ## `strip_ansi` -/

/-- `if (out + 1 < dst_size) dst[out++] = c;` -/
def copyByte (dstSize : Nat) (out : List UInt8) (c : UInt8) : List UInt8 :=
  if out.length + 1 < dstSize then out ++ [c] else out

/-- The scan of `strip_ansi` over the source array from `src[i]` on, inside the
skip loop of a CSI sequence when `inCsi`; `out` is what `dst` holds so far.
The loop increment steps past the byte the skip loop stopped on, NUL included.
`none` when the scan reads past the array. -/
def stripAnsiLoop (dstSize : Nat) : Bool → List UInt8 → List UInt8 → Option (List UInt8)
  | _, _, [] => none
  | true, out, c :: s =>
    if c ≠ 0 ∧ ¬ (0x40 ≤ c ∧ c ≤ 0x7E) then stripAnsiLoop dstSize true out s
    else stripAnsiLoop dstSize false out s
  | false, out, c :: s =>
    if c = 0 then some out
    else if c = 0x1B then
      match s with
      | [] => none
      | 0x5B :: s' => stripAnsiLoop dstSize true out s'
      | c' :: s' => stripAnsiLoop dstSize false (copyByte dstSize out c) (c' :: s')
    else stripAnsiLoop dstSize false (copyByte dstSize out c) s

/-- `strip_ansi(src, dst, dst_size)`: the bytes it stores before the NUL, whose
count it returns. -/
def stripAnsi (src : List UInt8) (dstSize : Nat) : Option (List UInt8) :=
  stripAnsiLoop dstSize false [] src

/-! ## `collect_visible_segments` -/

/-- The `show` check: some configured entry for `name` sets `show` to false. -/
def hiddenByConfig (theme : Theme Color) (name : CString) : Bool :=
  theme.segmentConfigs.any fun c => c.name == name && c.configured && c.showSet && !c.showFlag

/-- The loop body for one enabled name: `some none` when it is skipped,
`some (some ps)` when it is collected, `none` when `strip_ansi` reads past the
content array. -/
def collectOne (lleSegmentOutputMax : Nat) (theme : Theme Color) (registry : SegmentRegistry Color)
    (ctx : PromptContext) (name : CString) : Option (Option (PowerlineSegment Color)) :=
  match registry.find name with
  | none => some none
  | some seg =>
    if seg.isVisible.map (· ctx) = some false then some none
    else if hiddenByConfig theme name then some none
    else match seg.render ctx theme with
      | .error _ => some none
      | .ok out =>
        if out.isEmpty || out.contentLen == 0 then some none
        else (stripAnsi out.content lleSegmentOutputMax).map fun content =>
          some ⟨content, (resolveSegmentColors ops theme name ctx).1,
            (resolveSegmentColors ops theme name ctx).2⟩

/-- `collect_visible_segments` over the enabled names, with `capacity` slots left. -/
def collectVisibleSegments (lleSegmentOutputMax : Nat) (theme : Theme Color)
    (registry : SegmentRegistry Color) (ctx : PromptContext) :
    Nat → List CString → Option (List (PowerlineSegment Color))
  | _, [] => some []
  | 0, _ :: _ => some []
  | capacity + 1, name :: names =>
    match collectOne ops lleSegmentOutputMax theme registry ctx name with
    | none => none
    | some none => collectVisibleSegments lleSegmentOutputMax theme registry ctx (capacity + 1) names
    | some (some ps) =>
      (collectVisibleSegments lleSegmentOutputMax theme registry ctx capacity names).map (ps :: ·)

/-! ## Assembly -/

/-- `append_ctx_t` over the caller's array of `size = buf.length` bytes. -/
structure AppendCtx where
  buf : List UInt8
  pos : Nat
  pos_lt : pos < buf.length

/-- `buf_append(a, str, len)`, `s` being the `len` bytes at `str`: copy them and
the NUL after them if all of them fit, else nothing. -/
def bufAppend (a : AppendCtx) (s : List UInt8) : AppendCtx :=
  if h : a.pos + s.length < a.buf.length then
    ⟨a.buf.take a.pos ++ s ++ 0 :: a.buf.drop (a.pos + s.length + 1), a.pos + s.length, by
      simp only [List.length_append, List.length_take, List.length_cons, List.length_drop]
      omega⟩
  else a

section Helpers

variable {α : Type} (append : α → List UInt8 → α)

/-- `buf_append_str`: the bytes up to the NUL. -/
def bufAppendStr (a : α) (s : List UInt8) : α := append a (cStr s)

/-- `buf_append_color_fg` (`isFg`) and `buf_append_color_bg`: the ANSI code,
when it is not empty. -/
def bufAppendColor (isFg : Bool) (a : α) (c : Color) : α :=
  if 0 < (ops.toAnsi c isFg).bytes.length then append a (ops.toAnsi c isFg).bytes else a

/-- `buf_append_color_fg`. -/
def bufAppendColorFg (a : α) (c : Color) : α := bufAppendColor ops append true a c

/-- `buf_append_color_bg`. -/
def bufAppendColorBg (a : α) (c : Color) : α := bufAppendColor ops append false a c

/-- `buf_append_reset`. -/
def bufAppendReset (a : α) : α := append a (lit "\x1b[0m")

/-- A segment's block, the same in both directions: bg, fg, space, content, space. -/
def segmentBody (a : α) (seg : PowerlineSegment Color) : α :=
  let a := bufAppendColorBg ops append a seg.bg
  let a := bufAppendColorFg ops append a seg.fg
  let a := bufAppendStr append a (lit " ")
  let a := append a seg.content
  bufAppendStr append a (lit " ")

/-- `render_left_to_right`: each block, then a separator coloured from this
block's background into the next one's, or, after the last block, a reset and a
separator on the default background. -/
def renderLeftToRight (sep : List UInt8) : α → List (PowerlineSegment Color) → α
  | a, [] => a
  | a, seg :: rest =>
    let a := segmentBody ops append a seg
    let a := match rest with
      | next :: _ =>
        let a := bufAppendColorFg ops append a seg.bg
        let a := bufAppendColorBg ops append a next.bg
        bufAppendStr append a sep
      | [] =>
        let a := bufAppendReset append a
        let a := bufAppendColorFg ops append a seg.bg
        let a := bufAppendStr append a sep
        bufAppendReset append a
    renderLeftToRight sep a rest

/-- The loop of `render_right_to_left`; `prev` is the segment before, `none` at `i == 0`. -/
def renderRightToLeftLoop (sep : List UInt8) :
    Option (PowerlineSegment Color) → α → List (PowerlineSegment Color) → α
  | _, a, [] => a
  | prev, a, seg :: rest =>
    let a := bufAppendColorFg ops append a seg.bg
    let a := match prev with
      | none => a
      | some p => bufAppendColorBg ops append a p.bg
    let a := bufAppendStr append a sep
    renderRightToLeftLoop sep (some seg) (segmentBody ops append a seg) rest

/-- `render_right_to_left`: a separator before each block, and a reset at the end. -/
def renderRightToLeft (sep : List UInt8) (a : α) (segs : List (PowerlineSegment Color)) : α :=
  bufAppendReset append (renderRightToLeftLoop ops append sep none a segs)

/-- The render loop `lle_powerline_render` picks for the direction. -/
def renderSegments (dir : Direction) (sep : List UInt8) (a : α) (segs : List (PowerlineSegment Color)) : α :=
  match dir with
  | .leftToRight => renderLeftToRight ops append sep a segs
  | .rightToLeft => renderRightToLeft ops append sep a segs

end Helpers

/-- The separator: the theme's symbol for the direction, or the default arrow
(U+E0B0, U+E0B2) when that symbol is empty. -/
def separatorFor (theme : Theme Color) : Direction → List UInt8
  | .leftToRight => if cur theme.separatorLeft = 0 then [0xEE, 0x82, 0xB0] else theme.separatorLeft
  | .rightToLeft => if cur theme.separatorRight = 0 then [0xEE, 0x82, 0xB2] else theme.separatorRight

variable (lleSegmentOutputMax : Nat) (theme : Theme Color) (registry : SegmentRegistry Color)
  (ctx : PromptContext) (dir : Direction)

/-- `lle_powerline_render(theme, segments, context, direction, output, output_size)`
on the caller's array `output`, `output_size = output.length`: the result code and
the array afterwards; `none` when `strip_ansi` reads past a content array. -/
def llePowerlineRender (output : List UInt8) : Option (LleResult × List UInt8) :=
  if h : output.length = 0 then some (.errorInvalidParameter, output)
  else if theme.enabledSegments = [] then some (.success, output.set 0 0)
  else (collectVisibleSegments ops lleSegmentOutputMax theme registry ctx powerlineMaxVisible
      theme.enabledSegments).map fun segs =>
    if segs.isEmpty then (.success, output.set 0 0)
    else (.success, (renderSegments ops bufAppend dir (separatorFor theme dir)
      ⟨output.set 0 0, 0, by simp; omega⟩ segs).buf)

/-- What `lle_powerline_render` produces with an unbounded output buffer:
nothing when no segment is collected. -/
def llePowerlineRenderUnbounded : Option (List UInt8) :=
  (collectVisibleSegments ops lleSegmentOutputMax theme registry ctx powerlineMaxVisible
      theme.enabledSegments).map fun segs =>
    if segs.isEmpty then [] else renderSegments ops (· ++ ·) dir (separatorFor theme dir) [] segs

end Powerline
end Lush

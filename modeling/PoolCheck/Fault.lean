import PoolCheck.Comparison
import PoolCheck.Pool.Operator

/-!
# Faults

A fault is a cause. It belongs to one of six kinds, which name the stage that stopped, and each
cause has one wording. A fault that aborts is not given as a result: it ends the program, and
nobody reads its wording.
-/

set_option autoImplicit false

namespace PoolCheck

def formatVersion : Nat := 1

inductive Dimension where
  | height
  | width
  deriving DecidableEq

def Dimension.text : Dimension → String
  | height => "高"
  | width => "宽"

inductive ConfigFault where
  | kernelNotPositive (op : String) (along : Dimension)
  | strideNotPositive (op : String) (along : Dimension)
  | paddingTooLarge (op : String) (along : Dimension) (padding kernel : Nat)
  | divisorNotPositive
  | emptySequence
  | atStep (step : Nat) (op : Operator) (cause : ConfigFault)
  | atShape (step : Nat) (op : Operator) (shape : Shape) (cause : ConfigFault)
  | emptyLine
  | strideZero
  | kernelTooLarge (kernel padded : Int)
  | emptyPlane (op : String) (shape : Shape)
  | notRankFour (op : String) (shape : Shape)
  | graphName (name : String)
  | nameEmpty
  | inputShape (shape : Shape)
  | negativeTolerance (abs rel : Binary32)
  | timeoutZero
  | unreadable (path : String)
  | malformed
  | refused (cause : ConfigFault)
  | logLevel (level : String)
  | tooLarge
  deriving DecidableEq

inductive ExitStatus where
  | code (n : Nat)
  | signal (n : Nat)
  deriving DecidableEq

/-- What stops the conversion: its arguments, its files, or the converter itself. The last lines
of the converter's log go with the faults that come after it was started. -/
inductive ConversionFault where
  | lowering (cause : ConfigFault)
  | shapeArgument (argument : String)
  | emptyExtent (shape : Shape)
  | extraArgument (argument : String)
  | noGraphArgument
  | noShapeArgument
  | graphVersion (version : Nat)
  | declaredShape (declared graph : Shape)
  | storedShape (stored declared : Shape)
  | noFileName (path : String)
  | unreadableGraph (path : String)
  | malformedGraph
  | refusedGraph (cause : ConfigFault)
  | unreadableInput (cause : TensorFault)
  | unwritableParams (cause : TensorFault)
  | unwritableModule
  | unwritableInput (cause : TensorFault)
  | unwritableGraph
  | noWorkDirectory (path : String)
  | noTemporaryDirectory
  | staleArtifact (path : String)
  | noLog
  | notStarted (program : String)
  | failed (status : ExitStatus) (log : Option String)
  | timedOut (milliseconds : Nat) (log : Option String)
  | missingArtifact (path : String) (log : Option String)
  deriving DecidableEq

inductive LoadFault where
  | unreadableModule (path : String)
  | malformedModule
  | moduleVersion (version : Nat)
  | unreadableParams (cause : TensorFault)
  | embeddedShape (embedded declared : Shape)
  | notRankFour (shape : Shape)
  | badWindow (kernel stride : Pair)
  | windowTooLarge (kernel : Pair) (height width : Nat)
  | tableSize (tableHeight tableWidth count height width : Nat)
  | zeroDivisor
  | stageShape (index : Nat) (source : String) (actual declared : Shape)
  | otherInput
  | tooLarge
  deriving DecidableEq

/-- Which comparison met two different shapes. -/
inductive ShapeCheck where
  | candidate
  | verdict
  deriving DecidableEq

inductive Fault where
  | configuration (cause : ConfigFault)
  | conversion (cause : ConversionFault)
  | load (cause : LoadFault)
  | shapeMismatch (expected actual : Shape) (check : ShapeCheck)
  | valueMismatch (diagnostic : Diagnostic)
  | tensor (cause : TensorFault)
  deriving DecidableEq

def TensorFault.text : TensorFault → String
  | wrongLength length shape =>
    s!"数据长度为{length}，与形状{shapeText shape}所需的{volume shape}个元素不一致"
  | unaddressable | tooLarge => "张量形状不兼容"
  | unreadableFile path => s!"张量文件读写失败：读取{path}失败"
  | unwritableFile path => s!"张量文件读写失败：写入{path}失败"

def IndexFault.text? : IndexFault → Option String
  | wrongRank given rank => some s!"索引维度数{given}与张量阶数{rank}不一致"
  | outOfRange => none

namespace ConfigFault

def text : ConfigFault → String
  | kernelNotPositive op along => s!"{op} 的核在{along.text}维度上须为正数"
  | strideNotPositive op along => s!"{op} 的步长在{along.text}维度上须为正数"
  | paddingTooLarge op along padding kernel =>
    s!"{op} 的填充在{along.text}维度上为{padding}，超过了核大小{kernel}的一半"
  | divisorNotPositive => "AvgPool2d 的 divisor_override 须为正数"
  | emptySequence => "算子序列为空"
  | atStep step op cause => s!"第{step}步（{op.text}）：" ++ cause.text
  | atShape step op shape cause =>
    s!"第{step}步（{op.text}）输入形状为{shapeText shape}：" ++ cause.text
  | emptyLine => "输入的空间尺寸须为正数"
  | strideZero => "步长须为正数"
  | kernelTooLarge kernel padded =>
    s!"核大小{kernel}超过了填充后的输入长度{padded}，输出尺寸将非正"
  | emptyPlane op shape => s!"{op} 的输入空间尺寸须为正数，得到 {shapeText shape}"
  | notRankFour op shape => s!"{op} 输入必须是 4D [N, C, H, W]，得到 {shapeText shape}"
  | graphName name => s!"图名称`{name}`不能为空或包含路径分隔符"
  | nameEmpty => "名称不能为空"
  | inputShape shape => s!"输入形状须为各维为正的 4D [N, C, H, W]，得到 {shapeText shape}"
  | negativeTolerance abs rel =>
    s!"容差须为非负数，得到 abs={abs.text .plain}，rel={rel.text .plain}"
  | timeoutZero => "超时须为正数"
  | unreadable path => s!"读取配置文件{path}失败"
  | malformed => "解析配置失败"
  | refused cause => "解析配置失败: 配置错误：" ++ cause.text
  | logLevel level => s!"无法识别的日志级别`{level}`"
  | tooLarge => TensorFault.tooLarge.text

end ConfigFault

namespace ExitStatus

def signalNames : List (Nat × String) :=
  [(1, "SIGHUP"), (2, "SIGINT"), (3, "SIGQUIT"), (4, "SIGILL"), (5, "SIGTRAP"), (6, "SIGABRT"),
    (7, "SIGBUS"), (8, "SIGFPE"), (9, "SIGKILL"), (10, "SIGUSR1"), (11, "SIGSEGV"),
    (12, "SIGUSR2"), (13, "SIGPIPE"), (14, "SIGALRM"), (15, "SIGTERM"), (16, "SIGSTKFLT"),
    (24, "SIGXCPU"), (25, "SIGXFSZ"), (26, "SIGVTALRM"), (27, "SIGPROF"), (29, "SIGIO"),
    (30, "SIGPWR"), (31, "SIGSYS")]

def text : ExitStatus → String
  | code n => s!"exit status: {n}"
  | signal n =>
    match signalNames.lookup n with
    | some name => s!"signal: {n} ({name})"
    | none => s!"signal: {n}"

end ExitStatus

/-- A span of time: whole milliseconds below one second, seconds with up to three places from
there on. -/
def spanText (milliseconds : Nat) : String :=
  if milliseconds = 0 then "0ns"
  else if milliseconds < 1000 then s!"{milliseconds}ms"
  else
    let places := (Nat.toDigits 10 (milliseconds % 1000)).leftpad 3 '0'
    let kept := (places.reverse.dropWhile (· = '0')).reverse
    let fraction := if kept = [] then [] else '.' :: kept
    s!"{milliseconds / 1000}" ++ String.ofList fraction ++ "s"

namespace ConversionFault

def withLog (text : String) : Option String → String
  | none => text
  | some log => text ++ "\n转换日志：\n" ++ log

def text : ConversionFault → String
  | lowering cause => cause.text
  | shapeArgument argument => s!"无法解析输入形状参数`{argument}`"
  | emptyExtent shape => s!"输入形状{shapeText shape}中的每一维都须为正数"
  | extraArgument argument => s!"多余的参数`{argument}`"
  | noGraphArgument => "缺少图文件参数"
  | noShapeArgument => "缺少 inputshape=[...] 参数"
  | graphVersion version => s!"不支持的图格式版本{version}（当前为{formatVersion}）"
  | declaredShape declared graph =>
    s!"声明的输入形状{shapeText declared}与导出图的输入形状{shapeText graph}不一致"
  | storedShape stored declared =>
    s!"输入张量形状{shapeText stored}与声明的输入形状{shapeText declared}不一致"
  | noFileName path => s!"无法从{path}得到文件名"
  | unreadableGraph path => s!"读取图文件{path}失败"
  | malformedGraph => "解析图文件失败"
  | refusedGraph cause => "解析图文件失败: 配置错误：" ++ cause.text
  | unreadableInput cause => "读取输入张量失败: " ++ cause.text
  | unwritableParams cause => "写入参数文件失败: " ++ cause.text
  | unwritableModule => "写入转换后模块失败"
  | unwritableInput cause => "导出输入张量失败: " ++ cause.text
  | unwritableGraph => "写入图文件失败"
  | noWorkDirectory path => s!"无法创建工作目录{path}"
  | noTemporaryDirectory => "无法创建临时工作目录"
  | staleArtifact path => s!"无法删除遗留产物{path}"
  | noLog => "无法创建转换日志文件"
  | notStarted program => s!"无法启动转换工具{program}"
  | failed status log => withLog s!"转换工具以非零状态退出（{status.text}）" log
  | timedOut milliseconds log => withLog s!"转换工具超时（{spanText milliseconds}）" log
  | missingArtifact path log => withLog s!"转换工具成功退出，但未产出{path}" log

end ConversionFault

def LoadFault.text : LoadFault → String
  | unreadableModule path => s!"读取模块{path}失败"
  | malformedModule => "解析模块失败"
  | moduleVersion version => s!"不支持的模块格式版本{version}（当前为{formatVersion}）"
  | unreadableParams cause => "读取参数文件失败: " ++ cause.text
  | embeddedShape embedded declared =>
    s!"内嵌输入形状{shapeText embedded}与模块声明的{shapeText declared}不一致"
  | notRankFour shape => s!"模块输入必须是 4D [N, C, H, W]，得到 {shapeText shape}"
  | badWindow kernel stride => s!"滑窗参数非法：核{kernel.text}，步长{stride.text}"
  | windowTooLarge kernel height width =>
    s!"滑窗核{kernel.text}超出填充后的输入尺寸({height}, {width})"
  | tableSize tableHeight tableWidth count height width =>
    s!"除数表尺寸({tableHeight}, {tableWidth})（{count}项）" ++
      s!"与输入空间尺寸({height}, {width})不一致"
  | zeroDivisor => "DivideByScalar 的除数为 0"
  | stageShape index source actual declared =>
    s!"第{index}段（{source}）输出形状{shapeText actual}与模块声明的{shapeText declared}不一致"
  | otherInput => "转换产物内嵌的输入与参考执行器的输入不一致"
  | tooLarge => TensorFault.tooLarge.text

def ShapeCheck.text : ShapeCheck → String
  | candidate => "转换后输出与参考输出形状不一致"
  | verdict => "参考输出与候选输出形状不一致"

namespace Fault

def stage : Fault → String
  | configuration _ => "configuration"
  | conversion _ => "conversion"
  | load _ => "load"
  | shapeMismatch .. => "shape-check"
  | valueMismatch _ => "oracle"
  | tensor _ => "tensor"

def text : Fault → String
  | configuration cause => "配置错误：" ++ cause.text
  | conversion cause => "转换错误：" ++ cause.text
  | load cause => "加载错误：" ++ cause.text
  | shapeMismatch expected actual check =>
    s!"形状不匹配：期望 {shapeText expected}，实际 {shapeText actual}（{check.text}）"
  | valueMismatch diagnostic => "数值不一致：" ++ diagnostic.text
  | tensor cause => "张量错误：" ++ cause.text

end Fault

def TensorFault.aborts : TensorFault → Bool
  | tooLarge => true
  | _ => false

def ConfigFault.aborts : ConfigFault → Bool
  | atShape _ _ _ cause => cause.aborts
  | tooLarge => true
  | _ => false

def ConversionFault.aborts : ConversionFault → Bool
  | lowering cause => cause.aborts
  | unreadableInput cause => cause.aborts
  | _ => false

def LoadFault.aborts : LoadFault → Bool
  | unreadableParams cause => cause.aborts
  | tooLarge => true
  | _ => false

def Fault.aborts : Fault → Bool
  | configuration cause => cause.aborts
  | conversion cause => cause.aborts
  | load cause => cause.aborts
  | tensor cause => cause.aborts
  | _ => false

def abortStatus : Nat := 101

def Verdict.settle (v : Verdict) : Except Fault Verdict :=
  match v.passed, v.diagnostic with
  | false, some d => .error (.valueMismatch d)
  | _, _ => .ok v

def Policy.compare (policy : Policy) (reference candidate : Tensor) : Except Fault Verdict :=
  if reference.shape = candidate.shape then .ok (policy.judge reference candidate)
  else .error (.shapeMismatch reference.shape candidate.shape .verdict)

end PoolCheck

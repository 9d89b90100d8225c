import TritonGPUToLLVM.Attributes
import TritonGPUToLLVM.Types
import TritonGPUToLLVM.IR
import TritonGPUToLLVM.FuncOp
import TritonGPUToLLVM.CallReturn
import TritonGPUToLLVM.CallingConvention
import TritonGPUToLLVM.Decompose
import TritonGPUToLLVM.AsyncCopies
import TritonGPUToLLVM.InsertSlice
import TritonGPUToLLVM.Cleanup
import TritonGPUToLLVM.Pipeline
import TritonGPUToLLVM.SharedMemoryArgument
import TritonGPUToLLVM.FunctionStages
import TritonGPUToLLVM.Run
import TritonGPUToLLVM.RunProgress

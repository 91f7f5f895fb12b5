/-!
# Image layouts

How the memory of a subresource is arranged, as far as using it correctly requires to know.
-/

set_option autoImplicit false

namespace LayoutTracking

inductive ImageLayout where
  | undefined
  | general
  | colorAttachmentOptimal
  | depthStencilAttachmentOptimal
  | depthStencilReadOnlyOptimal
  | shaderReadOnlyOptimal
  | transferSrcOptimal
  | transferDstOptimal
  | preinitialized
  | depthReadOnlyStencilAttachmentOptimal
  | depthAttachmentStencilReadOnlyOptimal
  | depthAttachmentOptimal
  | depthReadOnlyOptimal
  | stencilAttachmentOptimal
  | stencilReadOnlyOptimal
  | readOnlyOptimal
  | attachmentOptimal
  | presentSrc
  | sharedPresent
  | fragmentShadingRateAttachmentOptimal
  | fragmentDensityMapOptimal
  | attachmentFeedbackLoopOptimal
deriving DecidableEq, Repr, Inhabited

namespace ImageLayout

def name : ImageLayout → String
  | .undefined => "Undefined"
  | .general => "General"
  | .colorAttachmentOptimal => "ColorAttachmentOptimal"
  | .depthStencilAttachmentOptimal => "DepthStencilAttachmentOptimal"
  | .depthStencilReadOnlyOptimal => "DepthStencilReadOnlyOptimal"
  | .shaderReadOnlyOptimal => "ShaderReadOnlyOptimal"
  | .transferSrcOptimal => "TransferSrcOptimal"
  | .transferDstOptimal => "TransferDstOptimal"
  | .preinitialized => "Preinitialized"
  | .depthReadOnlyStencilAttachmentOptimal => "DepthReadOnlyStencilAttachmentOptimal"
  | .depthAttachmentStencilReadOnlyOptimal => "DepthAttachmentStencilReadOnlyOptimal"
  | .depthAttachmentOptimal => "DepthAttachmentOptimal"
  | .depthReadOnlyOptimal => "DepthReadOnlyOptimal"
  | .stencilAttachmentOptimal => "StencilAttachmentOptimal"
  | .stencilReadOnlyOptimal => "StencilReadOnlyOptimal"
  | .readOnlyOptimal => "ReadOnlyOptimal"
  | .attachmentOptimal => "AttachmentOptimal"
  | .presentSrc => "PresentSrc"
  | .sharedPresent => "SharedPresent"
  | .fragmentShadingRateAttachmentOptimal => "FragmentShadingRateAttachmentOptimal"
  | .fragmentDensityMapOptimal => "FragmentDensityMapOptimal"
  | .attachmentFeedbackLoopOptimal => "AttachmentFeedbackLoopOptimal"

def all : List ImageLayout :=
  [.undefined, .general, .colorAttachmentOptimal, .depthStencilAttachmentOptimal,
   .depthStencilReadOnlyOptimal, .shaderReadOnlyOptimal, .transferSrcOptimal, .transferDstOptimal,
   .preinitialized, .depthReadOnlyStencilAttachmentOptimal,
   .depthAttachmentStencilReadOnlyOptimal, .depthAttachmentOptimal, .depthReadOnlyOptimal,
   .stencilAttachmentOptimal, .stencilReadOnlyOptimal, .readOnlyOptimal, .attachmentOptimal,
   .presentSrc, .sharedPresent, .fragmentShadingRateAttachmentOptimal, .fragmentDensityMapOptimal,
   .attachmentFeedbackLoopOptimal]

def ofName? (name : String) : Option ImageLayout :=
  all.find? fun layout => layout.name == name

theorem mem_all (layout : ImageLayout) : layout ∈ all := by
  cases layout <;> simp [all]

end ImageLayout

end LayoutTracking

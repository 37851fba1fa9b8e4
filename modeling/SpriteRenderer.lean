import SpriteRenderer.Session
import SpriteRenderer.Proofs.Sprite.Decoding
import SpriteRenderer.Proofs.Sprite.Placement
import SpriteRenderer.Proofs.Sprite.Building
import SpriteRenderer.Proofs.Sprite.Appending
import SpriteRenderer.Proofs.Procedure.Agreement
import SpriteRenderer.Proofs.VertexArray.Isolation
import SpriteRenderer.Proofs.Objects.Lifetime
import SpriteRenderer.Proofs.Session.Refusal
import SpriteRenderer.Proofs.Drawing.Uniforms
import SpriteRenderer.Proofs.Procedure.Lineage
import SpriteRenderer.Proofs.Procedure.Checking
import SpriteRenderer.Proofs.Objects.Standing
import SpriteRenderer.Proofs.Buffer.Contents
import SpriteRenderer.Proofs.Buffer.Data
import SpriteRenderer.Proofs.Action.TwoRuns
import SpriteRenderer.Proofs.Buffer.Sprites
import SpriteRenderer.Proofs.Procedure.Anonymity
import SpriteRenderer.Proofs.Script.Independence
import SpriteRenderer.Proofs.Template.Counting
import SpriteRenderer.Proofs.Template.Substitution
import SpriteRenderer.Proofs.Operation.Attributes
import SpriteRenderer.Proofs.Script.Footprint
import SpriteRenderer.Proofs.Action.Outcomes
import SpriteRenderer.Proofs.Device.Recorder
import SpriteRenderer.Proofs.Drawing.Narrowing
import SpriteRenderer.Proofs.RenderTarget.Replay
import SpriteRenderer.Proofs.RenderTarget.Storage
import SpriteRenderer.Proofs.RenderTarget.Sizes
import SpriteRenderer.Proofs.Buffer.Selection
import SpriteRenderer.Proofs.RenderTarget.Copying

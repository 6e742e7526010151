import WebhookRelay.Python.Builtins
import WebhookRelay.Python.Value
import WebhookRelay.Models
import WebhookRelay.History.Store
import WebhookRelay.History.Refinement
import WebhookRelay.Relay.Content
import WebhookRelay.Relay.Pipeline
import WebhookRelay.Relay.ShortCircuit
import WebhookRelay.Relay.Isolation
import WebhookRelay.Relay.Request
import WebhookRelay.Relay.Sessions
import WebhookRelay.Relay.Interleaving
import WebhookRelay.Relay.Upstream
import WebhookRelay.Relay.Forwarding
import WebhookRelay.Relay.InterleavedStore
import WebhookRelay.Relay.Base64
import WebhookRelay.Telegram.Attachments
import WebhookRelay.Telegram.Download
import WebhookRelay.Telegram.Send
import WebhookRelay.Telegram.Extraction
import WebhookRelay.Telegram.Webhook

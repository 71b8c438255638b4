import PermissionContexts.Deployment
import PermissionContexts.Event.Encoding
import PermissionContexts.Main
import PermissionContexts.Proofs.Accounting
import PermissionContexts.Proofs.Backlog
import PermissionContexts.Proofs.CommandLine
import PermissionContexts.Proofs.Consumer
import PermissionContexts.Proofs.ContextText
import PermissionContexts.Proofs.Dispatch
import PermissionContexts.Proofs.EventJson
import PermissionContexts.Proofs.KeyGrammar
import PermissionContexts.Proofs.KeyNames
import PermissionContexts.Proofs.Layers
import PermissionContexts.Proofs.Listeners
import PermissionContexts.Proofs.Nulls
import PermissionContexts.Proofs.Publishing
import PermissionContexts.Proofs.Registrations
import PermissionContexts.Proofs.Requirement
import PermissionContexts.Proofs.RewriteRules
import PermissionContexts.Proofs.Settings
import PermissionContexts.Proofs.Stores
import PermissionContexts.Proofs.Transparency
import PermissionContexts.Proofs.WholeSets
import PermissionContexts.Proofs.WrittenSettings
import PermissionContexts.Session.Play

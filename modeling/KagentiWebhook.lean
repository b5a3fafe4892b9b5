import KagentiWebhook.Cluster.Object
import KagentiWebhook.Cluster.Store
import KagentiWebhook.Injector.PodSpec
import KagentiWebhook.Injector.PodMutator
import KagentiWebhook.Injector.Properties
import KagentiWebhook.Injector.Runs
import KagentiWebhook.MCPServer.Resources
import KagentiWebhook.MCPServer.Defaulter
import KagentiWebhook.MCPServer.ChangeCheck
import KagentiWebhook.MCPServer.Finalizer
import KagentiWebhook.MCPServer.Writes
import KagentiWebhook.MCPServer.Progress
import KagentiWebhook.MCPServer.Deletion
import KagentiWebhook.MCPServer.Reconcile
import KagentiWebhook.MCPServer.Isolation
import KagentiWebhook.MCPServer.Lifecycle
